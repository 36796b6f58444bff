import Mathlib

/-!
# Merkle trees over a list of leaves

A level of the tree is hashed two by two into the next one; the last node of an odd level is paired with itself. The
root is what is left when a level has one node.

The root binds the leaves (`eq_of_root_eq`): if no two pairs that are hashed for two lists of distinct leaves collide,
and no leaf is the hash of such a pair, then equal roots come from equal lists.
-/

namespace MerkleTree

variable {α : Type*}

def nextLevel (node : α → α → α) : List α → List α
  | [] => []
  | [last] => [node last last]
  | left :: right :: rest => node left right :: nextLevel node rest

theorem length_nextLevel (node : α → α → α) : ∀ level : List α, (nextLevel node level).length = (level.length + 1) / 2
  | [] => by simp [nextLevel]
  | [_] => by simp [nextLevel]
  | left :: right :: rest => by
    simp only [nextLevel, List.length_cons, length_nextLevel node rest]
    omega

/-- The node that is left after hashing level by level; there is none without leaves. -/
def root (node : α → α → α) (level : List α) : Option α :=
  if 1 < level.length then root node (nextLevel node level) else level.head?
termination_by level.length
decreasing_by
  rw [length_nextLevel]
  omega

/-! ## The pairs that are hashed -/

/-- The pairs of one level. -/
def pairUp : List α → List (α × α)
  | [] => []
  | [last] => [(last, last)]
  | left :: right :: rest => (left, right) :: pairUp rest

/-- The pairs of all levels. -/
def hashed (node : α → α → α) (level : List α) : List (α × α) :=
  if 1 < level.length then pairUp level ++ hashed node (nextLevel node level) else []
termination_by level.length
decreasing_by
  rw [length_nextLevel]
  omega

variable {node : α → α → α} {lv lv' : List α}

theorem nextLevel_eq_map (node : α → α → α) : ∀ lv : List α, nextLevel node lv = (pairUp lv).map fun p => node p.1 p.2
  | [] => rfl
  | [_] => rfl
  | _ :: _ :: rest => congrArg (_ :: ·) (nextLevel_eq_map node rest)

theorem mem_of_mem_pairUp : ∀ {lv : List α}, p ∈ pairUp lv → p.1 ∈ lv ∧ p.2 ∈ lv
  | [], h => by cases h
  | [last], h => by
    rw [List.mem_singleton.1 h]
    simp
  | left :: right :: rest, h => by
    rcases List.mem_cons.1 h with rfl | h
    · simp
    · have hr := mem_of_mem_pairUp h
      simp [hr.1, hr.2]

theorem map_fst_pairUp_sublist : ∀ lv : List α, ((pairUp lv).map (·.1)).Sublist lv
  | [] => .slnil
  | [_] => .refl _
  | left :: right :: rest => .cons_cons left (.cons right (map_fst_pairUp_sublist rest))

theorem nodup_pairUp (h : lv.Nodup) : (pairUp lv).Nodup := (h.sublist (map_fst_pairUp_sublist lv)).of_map _

/-! ## Heights -/

/-- `x` is a node at this height of a tree over these leaves whose pairs are all among `pairs`. -/
inductive Height (node : α → α → α) (leaves : Set α) (pairs : Set (α × α)) : Nat → α → Prop where
  | leaf {x : α} : x ∈ leaves → Height node leaves pairs 0 x
  | node {n : Nat} {a b : α} : (a, b) ∈ pairs → Height node leaves pairs n a → Height node leaves pairs n b →
      Height node leaves pairs (n + 1) (node a b)

/-- No two of the pairs collide, and none has a leaf as its hash. -/
structure Separated (node : α → α → α) (leaves : Set α) (pairs : Set (α × α)) : Prop where
  injective : Set.InjOn (fun p => node p.1 p.2) pairs
  leaf_ne : ∀ x ∈ leaves, ∀ p ∈ pairs, x ≠ node p.1 p.2

variable {leaves : Set α} {pairs : Set (α × α)} {n m : Nat} {x : α}

theorem Height.unique (hsep : Separated node leaves pairs) (h : Height node leaves pairs n x)
    (h' : Height node leaves pairs m x) : n = m := by
  induction h generalizing m with
  | leaf hx =>
    cases h' with
    | leaf _ => rfl
    | node hp _ _ => exact absurd rfl (hsep.leaf_ne _ hx _ hp)
  | @node n a b hp ha hb iha ihb =>
    generalize hy : node a b = y at h'
    cases h' with
    | leaf hx => exact absurd hy.symm (hsep.leaf_ne _ hx _ hp)
    | @node m c d hp' hc hd =>
      have heq := hsep.injective hp hp' hy
      rw [Prod.mk.injEq] at heq
      obtain ⟨rfl, rfl⟩ := heq
      rw [iha hc]

theorem height_nextLevel (hpa : ∀ p ∈ pairUp lv, p ∈ pairs) (h : ∀ x ∈ lv, Height node leaves pairs n x) :
    ∀ x ∈ nextLevel node lv, Height node leaves pairs (n + 1) x := by
  intro x hx
  rw [nextLevel_eq_map] at hx
  obtain ⟨p, hp, rfl⟩ := List.mem_map.1 hx
  have hm := mem_of_mem_pairUp hp
  exact .node (hpa p hp) (h _ hm.1) (h _ hm.2)

theorem nodup_nextLevel (hsep : Separated node leaves pairs) (hpa : ∀ p ∈ pairUp lv, p ∈ pairs)
    (h : lv.Nodup) : (nextLevel node lv).Nodup := by
  rw [nextLevel_eq_map]
  exact (nodup_pairUp h).map_on fun p hp q hq heq => hsep.injective (hpa p hp) (hpa q hq) heq

/-- Without duplicates a level can be read off the next one: only the last node of an odd level is paired with
itself. -/
theorem nextLevel_injective (hsep : Separated node leaves pairs) : ∀ {lv lv' : List α},
    (∀ p ∈ pairUp lv, p ∈ pairs) → (∀ p ∈ pairUp lv', p ∈ pairs) → lv.Nodup → lv'.Nodup →
    nextLevel node lv = nextLevel node lv' → lv = lv'
  | [], [], _, _, _, _, _ => rfl
  | [], [_], _, _, _, _, h => by cases h
  | [], _ :: _ :: _, _, _, _, _, h => by cases h
  | [_], [], _, _, _, _, h => by cases h
  | _ :: _ :: _, [], _, _, _, _, h => by cases h
  | [a], [b], hpa, hpa', _, _, h => by
    have heq := hsep.injective (hpa (a, a) (by simp [pairUp])) (hpa' (b, b) (by simp [pairUp])) (List.cons.inj h).1
    rw [(Prod.mk.inj heq).1]
  | [a], b :: c :: rest, hpa, hpa', _, hnd', h => by
    have heq := hsep.injective (hpa (a, a) (by simp [pairUp])) (hpa' (b, c) (by simp [pairUp])) (List.cons.inj h).1
    obtain ⟨rfl, rfl⟩ := Prod.mk.inj heq
    simp at hnd'
  | a :: b :: rest, [c], hpa, hpa', hnd, _, h => by
    have heq := hsep.injective (hpa (a, b) (by simp [pairUp])) (hpa' (c, c) (by simp [pairUp])) (List.cons.inj h).1
    obtain ⟨rfl, rfl⟩ := Prod.mk.inj heq
    simp at hnd
  | a :: b :: rest, c :: d :: rest', hpa, hpa', hnd, hnd', h => by
    have heq := hsep.injective (hpa (a, b) (by simp [pairUp])) (hpa' (c, d) (by simp [pairUp])) (List.cons.inj h).1
    obtain ⟨rfl, rfl⟩ := Prod.mk.inj heq
    have hr := nextLevel_injective hsep (fun p hp => hpa p (.tail _ hp)) (fun p hp => hpa' p (.tail _ hp))
      (List.nodup_cons.1 (List.nodup_cons.1 hnd).2).2 (List.nodup_cons.1 (List.nodup_cons.1 hnd').2).2
      (List.cons.inj h).2
    rw [hr]

theorem nextLevel_ne_nil (h : 1 < lv.length) : nextLevel node lv ≠ [] := by
  intro hn
  have hl := length_nextLevel node lv
  rw [hn, List.length_nil] at hl
  omega

theorem root_eq_of_lt (h : 1 < lv.length) : root node lv = root node (nextLevel node lv) := by
  rw [root, if_pos h]

theorem root_singleton : root node [x] = some x := by simp [root]

theorem hashed_eq_of_lt (h : 1 < lv.length) : hashed node lv = pairUp lv ++ hashed node (nextLevel node lv) := by
  rw [hashed, if_pos h]

theorem exists_root (h : lv ≠ []) : ∃ x, root node lv = some x := by
  induction lv using root.induct node with
  | case1 lv hl ih =>
    rw [root_eq_of_lt hl]
    exact ih (nextLevel_ne_nil hl)
  | case2 lv hl =>
    rw [root, if_neg hl]
    exact ⟨lv.head h, List.head?_eq_some_head h⟩

/-- The root is a node at some height above the level, and strictly above a level of more than one node. -/
theorem height_root (hpa : ∀ p ∈ hashed node lv, p ∈ pairs) (h : ∀ x ∈ lv, Height node leaves pairs n x)
    (hr : root node lv = some x) : ∃ m, Height node leaves pairs m x ∧ n ≤ m ∧ (1 < lv.length → n < m) := by
  induction lv using root.induct node generalizing n with
  | case1 lv hl ih =>
    rw [hashed_eq_of_lt hl] at hpa
    rw [root_eq_of_lt hl] at hr
    have hn := height_nextLevel (fun p hp => hpa p (List.mem_append_left _ hp)) h
    obtain ⟨m, hm, hle, -⟩ := ih (fun p hp => hpa p (List.mem_append_right _ hp)) hn hr
    exact ⟨m, hm, by omega, fun _ => by omega⟩
  | case2 lv hl =>
    rw [root, if_neg hl] at hr
    exact ⟨n, h x (List.mem_of_head? hr), le_rfl, fun hlt => absurd hlt hl⟩

/-- Above a level of more than one node, no node of the level's own height is the root. -/
theorem root_ne_of_lt (hsep : Separated node leaves pairs) (hp : ∀ p ∈ hashed node lv, p ∈ pairs)
    (hle : ∀ x ∈ lv, Height node leaves pairs n x) (hl : 1 < lv.length)
    (hx : Height node leaves pairs n x) : root node lv ≠ some x := by
  intro hr
  obtain ⟨m, hm, -, hlt⟩ := height_root hp hle hr
  have heq := hx.unique hsep hm
  have := hlt hl
  omega

theorem eq_singleton_of_not_lt (hne : lv ≠ []) (hl : ¬1 < lv.length) : ∃ x, lv = [x] := by
  have hp := List.length_pos_iff.2 hne
  exact List.length_eq_one_iff.1 (by omega)

/-- **The root binds the leaves.** -/
theorem eq_of_root_eq (hsep : Separated node leaves pairs) (hpa : ∀ p ∈ hashed node lv, p ∈ pairs)
    (hpa' : ∀ p ∈ hashed node lv', p ∈ pairs) (hle : ∀ x ∈ lv, Height node leaves pairs n x)
    (hle' : ∀ x ∈ lv', Height node leaves pairs n x) (hne : lv ≠ []) (hne' : lv' ≠ [])
    (hnd : lv.Nodup) (hnd' : lv'.Nodup) (h : root node lv = root node lv') : lv = lv' := by
  induction lv using root.induct node generalizing lv' n with
  | case1 lv hl ih =>
    by_cases hl' : 1 < lv'.length
    · -- both go on: the next levels agree by induction, and so do these
      rw [hashed_eq_of_lt hl] at hpa
      rw [hashed_eq_of_lt hl'] at hpa'
      rw [root_eq_of_lt hl, root_eq_of_lt hl'] at h
      have hup : ∀ p ∈ pairUp lv, p ∈ pairs := fun p hp => hpa p (List.mem_append_left _ hp)
      have hup' : ∀ p ∈ pairUp lv', p ∈ pairs := fun p hp => hpa' p (List.mem_append_left _ hp)
      have hn := ih (fun p hp => hpa p (List.mem_append_right _ hp))
        (fun p hp => hpa' p (List.mem_append_right _ hp)) (height_nextLevel hup hle)
        (height_nextLevel hup' hle') (nextLevel_ne_nil hl) (nextLevel_ne_nil hl')
        (nodup_nextLevel hsep hup hnd) (nodup_nextLevel hsep hup' hnd') h
      exact nextLevel_injective hsep hup hup' hnd hnd' hn
    · obtain ⟨x, rfl⟩ := eq_singleton_of_not_lt hne' hl'
      rw [root_singleton] at h
      exact absurd h (root_ne_of_lt hsep hpa hle hl (hle' x (by simp)))
  | case2 lv hl =>
    obtain ⟨x, rfl⟩ := eq_singleton_of_not_lt hne hl
    rw [root_singleton] at h
    by_cases hl' : 1 < lv'.length
    · exact absurd h.symm (root_ne_of_lt hsep hpa' hle' hl' (hle x (by simp)))
    · obtain ⟨y, rfl⟩ := eq_singleton_of_not_lt hne' hl'
      rw [root_singleton] at h
      rw [Option.some.inj h]

end MerkleTree
