import MasqMobile.Lib.SortBy

/-!
# Reading values page by page

A page holds the first values beyond a cursor, ascending by key (`pageAfter`); the cursor of the next page is the key
of the last value. `drain` asks for pages, each with the cursor that the last one returned, until a call fails.
-/

namespace Paging

open Lists

variable {α β κ ε σ : Type*}

/-- The cursor after these values have been read. -/
def cursor (key : α → κ) (read : List α) : Option κ := read.getLast?.map key

section Pages

variable [LE κ] [DecidableLE κ] [LT κ] [DecidableLT κ]

/-- The value lies beyond the cursor; everything lies beyond no cursor. -/
def Beyond (key : α → κ) (start : Option κ) (a : α) : Prop := ∀ k ∈ start, k < key a

instance (key : α → κ) (start : Option κ) : DecidablePred (Beyond key start) := fun a =>
  inferInstanceAs (Decidable (∀ k ∈ start, k < key a))

/-- The first `n` values beyond the cursor. -/
def pageAfter (key : α → κ) (l : List α) (start : Option κ) (n : Nat) : List α :=
  (sortBy key (l.filter (Beyond key start))).take n

variable [Std.IsLinearOrder κ] [Std.LawfulOrderLT κ] {key : α → κ} {l pre rest : List α}

omit [DecidableLT κ] in
theorem sortBy_strict (hl : (l.map key).Nodup) : (sortBy key l).Pairwise fun a b => key a < key b := by
  have hd : (sortBy key l).Pairwise fun a b => key a ≠ key b :=
    List.pairwise_map.1 (((sortBy_perm key l).map key).nodup_iff.2 hl)
  refine (pairwise_sortBy key l).imp₂ (fun a b hle hne => ?_) hd
  exact Std.not_le.1 fun hge => hne (Std.le_antisymm hle hge)

omit [DecidableLE κ] in
/-- The cursor after a first part of an ascending list keeps exactly the rest. -/
theorem filter_beyond_cursor (hs : (pre ++ rest).Pairwise fun a b => key a < key b) :
    (pre ++ rest).filter (Beyond key (cursor key pre)) = rest := by
  rcases List.eq_nil_or_concat' pre with rfl | ⟨init, last, rfl⟩
  · refine List.filter_eq_self.2 fun a _ => ?_
    simp [cursor, Beyond]
  · obtain ⟨hp, -, hac⟩ := List.pairwise_append.1 hs
    obtain ⟨-, -, hin⟩ := List.pairwise_append.1 hp
    have hc : ∀ a, Beyond key (cursor key (init ++ [last])) a ↔ key last < key a := by
      intro a
      simp [cursor, Beyond]
    have hr : (init ++ [last]).filter (Beyond key (cursor key (init ++ [last]))) = [] := by
      refine List.filter_eq_nil_iff.2 fun a ha => ?_
      rw [decide_eq_true_eq, hc, Std.not_lt]
      rcases List.mem_append.1 ha with ha | ha
      · exact Std.le_of_lt (hin a ha last List.mem_cons_self)
      · rw [List.mem_singleton.1 ha]
        exact Std.le_refl _
    have hl : rest.filter (Beyond key (cursor key (init ++ [last]))) = rest := by
      refine List.filter_eq_self.2 fun a ha => ?_
      rw [decide_eq_true_eq, hc]
      exact hac last (by simp) a ha
    rw [List.filter_append, hr, hl, List.nil_append]

theorem sortBy_filter_beyond (hl : (l.map key).Nodup) (hs : sortBy key l = pre ++ rest) :
    sortBy key (l.filter (Beyond key (cursor key pre))) = rest := by
  have hst : (pre ++ rest).Pairwise fun a b => key a < key b := hs ▸ sortBy_strict hl
  have hp : (sortBy key (l.filter (Beyond key (cursor key pre)))).Perm rest := by
    have hf := ((sortBy_perm key l).filter (Beyond key (cursor key pre))).symm
    rw [hs, filter_beyond_cursor hst] at hf
    exact (sortBy_perm key _).trans hf
  have has : rest.Pairwise fun a b => key a ≤ key b := (List.pairwise_append.1 hst).2.1.imp Std.le_of_lt
  have hin : ∀ a ∈ l, ∀ b ∈ l, key a = key b → a = b := fun a ha b hb => List.inj_on_of_nodup_map hl ha hb
  refine eq_of_perm_of_ascending (fun a ha b hb => ?_) hp (pairwise_sortBy key _) has
  exact hin a (List.mem_of_mem_filter (mem_sortBy.1 ha)) b (List.mem_of_mem_filter (mem_sortBy.1 hb))

theorem pageAfter_cursor (hl : (l.map key).Nodup) (hs : sortBy key l = pre ++ rest) (n : Nat) :
    pageAfter key l (cursor key pre) n = rest.take n := by
  rw [pageAfter, sortBy_filter_beyond hl hs]

end Pages

/-! ## The loop over the pages -/

/-- Calls `next`, numbered from `call` on and each with the cursor that the last call returned, until it fails: the
results and the failure, or nothing if `fuel` calls do not suffice. -/
def drain (next : Nat → Option κ → σ → Except ε (β × κ) × σ) : Nat → Nat → Option κ → σ → Option (List β × ε)
  | 0, _, _, _ => none
  | fuel + 1, call, start, state =>
    match next call start state with
    | (.error e, _) => some ([], e)
    | (.ok (result, k), state) => (drain next fuel (call + 1) (some k) state).map fun r => (result :: r.1, r.2)

/-- What one call does with the page that lies before it: it fails with `empty` on an empty page, and otherwise makes a
result of the page or fails. -/
def answer (key : α → κ) (make : List α → Except ε β) (empty : ε) (page : List α) : Except ε (β × κ) :=
  match page.getLast? with
  | none => .error empty
  | some last =>
    match make page with
    | .error e => .error e
    | .ok result => .ok (result, key last)

/-- **Pages cut the list into pieces.** If every call answers with the first `n` values of what is left, then the
results are made from consecutive pieces, and the loop ends at the end of the list or at the first piece from which
nothing can be made. -/
theorem drain_pages (next : Nat → Option κ → σ → Except ε (β × κ) × σ) (key : α → κ)
    (make : Nat → Option κ → List α → Except ε β) (em : ε) (st : σ) (hn : 0 < n) (hnex : ∀ call pre rest,
      s = pre ++ rest →
      next call (cursor key pre) st = (answer key (make call (cursor key pre)) em (rest.take n), st))
    (fuel call : Nat) (pre rest : List α) (hs : s = pre ++ rest) (hfu : rest.length < fuel) :
    ∃ p results left e, drain next fuel call (cursor key pre) st = some (results, e) ∧ rest = p.flatten ++ left ∧
      List.Forall₂ (fun page result => page ≠ [] ∧ page.length ≤ n ∧ ∃ i start, make i start page = .ok result)
        p results ∧
      (left = [] ∧ e = em ∨ left ≠ [] ∧ ∃ i start, make i start (left.take n) = .error e) := by
  induction fuel generalizing call pre rest with
  | zero => omega
  | succ fuel ih =>
    rcases List.eq_nil_or_concat' (rest.take n) with hni | ⟨init, last, hp⟩
    · obtain rfl : rest = [] := by
        rcases List.take_eq_nil_iff.1 hni with hz | hr
        · omega
        · exact hr
      refine ⟨[], [], [], em, ?_, rfl, .nil, .inl ⟨rfl, rfl⟩⟩
      simp only [drain, hnex call pre [] hs, answer, List.take_nil, List.getLast?_nil]
    · have hne : rest ≠ [] := fun h => by simp [h] at hp
      have hl : (rest.take n).getLast? = some last := by simp [hp]
      cases hm : make call (cursor key pre) (rest.take n) with
      | error e =>
        refine ⟨[], [], rest, e, ?_, rfl, .nil, .inr ⟨hne, call, _, hm⟩⟩
        simp only [drain, hnex call pre rest hs, answer, hl, hm]
      | ok result =>
        -- the next call starts where this page ends
        have hs' : s = (pre ++ rest.take n) ++ rest.drop n := by
          rw [List.append_assoc, List.take_append_drop, hs]
        have hc : cursor key (pre ++ rest.take n) = some (key last) := by
          simp [cursor, hp]
        have hsh : (rest.drop n).length < fuel := by
          have := List.length_pos_iff.2 hne
          rw [List.length_drop]
          omega
        obtain ⟨p, results, left, e, hd, hr, hma, he⟩ := ih (call + 1) (pre ++ rest.take n) (rest.drop n) hs' hsh
        rw [hc] at hd
        have hf : rest.take n ≠ [] := fun h => by simp [h] at hl
        refine ⟨rest.take n :: p, result :: results, left, e, ?_, ?_,
          .cons ⟨hf, List.length_take_le n rest, call, _, hm⟩ hma, he⟩
        · simp only [drain, hnex call pre rest hs, answer, hl, hm, hd, Option.map_some]
        · rw [List.flatten_cons, List.append_assoc, ← hr, List.take_append_drop]

end Paging
