import Mathlib

/-!
# Keyed tables and transactions

A table with a primary key is a list of rows whose keys are pairwise distinct, the distinctness being
part of the table. `put` inserts a row or replaces the one with its key, `erase` deletes by key, and
`total` adds a column up. A transaction computes on a copy of the database that becomes the database
only if the computation succeeds.
-/

theorem List.Forall₂.exists_mem {α β : Type*} {R : α → β → Prop} {l : List α} {l' : List β} (h : Forall₂ R l l')
    {a : α} (ha : a ∈ l) : ∃ b ∈ l', R a b := by
  induction h with
  | nil => cases ha
  | cons hh _ ih =>
    rcases mem_cons.1 ha with rfl | ha
    · exact ⟨_, mem_cons_self, hh⟩
    · obtain ⟨b, hb, hr⟩ := ih ha
      exact ⟨b, mem_cons_of_mem _ hb, hr⟩

/-- A table of `ρ` rows with primary key `key`. -/
structure Table (ρ : Type*) {κ : Type*} (key : ρ → κ) where
  rows : List ρ
  nodup : (rows.map key).Nodup

namespace Table

variable {ρ κ M : Type*} {key : ρ → κ}

def empty : Table ρ key := ⟨[], List.nodup_nil⟩

@[simp] theorem rows_empty : (empty : Table ρ key).rows = [] := rfl

variable [DecidableEq κ]

/-- `select .. where key = k`. -/
def find (t : Table ρ key) (k : κ) : Option ρ := t.rows.find? (key · = k)

variable (t : Table ρ key)

/-- `delete .. where key = k`. -/
def erase (k : κ) : Table ρ key := ⟨t.rows.filter (key · ≠ k), t.nodup.sublist (List.filter_sublist.map key)⟩

/-- `delete .. where p`, for a condition on other columns. -/
def deleteWhere (p : ρ → Bool) : Table ρ key := ⟨t.rows.filter (!p ·), t.nodup.sublist (List.filter_sublist.map key)⟩

variable {t} {k : κ} {r : ρ} {rows : List ρ} {p : ρ → Bool}

theorem mem_erase : r ∈ (t.erase k).rows ↔ r ∈ t.rows ∧ key r ≠ k := by
  simp [erase]

/-- `insert .. on conflict(key) do update`. -/
def put (t : Table ρ key) (r : ρ) : Table ρ key where
  rows := r :: (t.erase (key r)).rows
  nodup := by
    rw [List.map_cons, List.nodup_cons]
    refine ⟨fun h => ?_, (t.erase (key r)).nodup⟩
    obtain ⟨r', hr', hkey⟩ := List.mem_map.1 h
    exact (mem_erase.1 hr').2 hkey

theorem mem_put : r' ∈ (t.put r).rows ↔ r' = r ∨ (r' ∈ t.rows ∧ key r' ≠ key r) := by
  simp [put, mem_erase]

theorem deleteWhere_eq_erase (h : ∀ r ∈ t.rows, p r = true ↔ key r = k) :
    t.deleteWhere p = t.erase k := by
  have hro : t.rows.filter (!p ·) = t.rows.filter (key · ≠ k) := by
    refine List.filter_congr fun r hr => ?_
    by_cases hk : key r = k
    · simp [hk, (h r hr).2 hk]
    · simp [hk, mt (h r hr).1 hk]
  simp only [deleteWhere, erase, hro]

theorem countP_eq_one (hr : r ∈ t.rows)
    (h : ∀ r' ∈ t.rows, p r' = true ↔ key r' = key r) : t.rows.countP p = 1 := by
  have hc : t.rows.countP p = (t.rows.map key).count (key r) := by
    rw [List.count, List.countP_map]
    exact List.countP_congr fun r' hr' => by simp [h r' hr']
  rw [hc]
  exact List.count_eq_one_of_mem t.nodup (List.mem_map_of_mem hr)

theorem find_eq_none_iff : t.find k = none ↔ ∀ r ∈ t.rows, key r ≠ k := by
  simp [find]

theorem find_eq_some_iff : t.find k = some r ↔ r ∈ t.rows ∧ key r = k := by
  constructor
  · intro h
    exact ⟨List.mem_of_find?_eq_some h, by simpa using List.find?_some h⟩
  · rintro ⟨hr, rfl⟩
    cases h : t.find (key r) with
    | none => exact absurd rfl (find_eq_none_iff.1 h r hr)
    | some r' =>
      have hr' : r' ∈ t.rows := List.mem_of_find?_eq_some h
      have hk : key r' = key r := by simpa using List.find?_some h
      rw [List.inj_on_of_nodup_map t.nodup hr' hr hk]

theorem find_erase : (t.erase k).find k' = if k' = k then none else t.find k' := by
  ext r
  rw [find_eq_some_iff, mem_erase]
  by_cases hk : k' = k
  · simp only [hk, if_true, reduceCtorEq, iff_false]
    rintro ⟨⟨-, hne⟩, hke⟩
    exact hne hke
  · rw [if_neg hk, find_eq_some_iff]
    constructor
    · rintro ⟨⟨hr, -⟩, hke⟩
      exact ⟨hr, hke⟩
    · rintro ⟨hr, rfl⟩
      exact ⟨⟨hr, hk⟩, rfl⟩

@[simp] theorem find_empty : (empty : Table ρ key).find k = none := rfl

theorem find_put_self (t : Table ρ key) (r : ρ) : (t.put r).find (key r) = some r := find_eq_some_iff.2 ⟨mem_put.2 (.inl rfl), rfl⟩

theorem find_put_of_ne (t : Table ρ key) (h : key r ≠ k) : (t.put r).find k = t.find k := by
  ext r'
  rw [find_eq_some_iff, find_eq_some_iff, mem_put]
  constructor
  · rintro ⟨rfl | ⟨hr', -⟩, hk⟩
    · exact absurd hk h
    · exact ⟨hr', hk⟩
  · rintro ⟨hr', rfl⟩
    exact ⟨.inr ⟨hr', Ne.symm h⟩, rfl⟩

/-- Of rows with distinct keys that are put into a table one after the other, each is found. -/
theorem find_foldl_put (hnd : (rows.map key).Nodup) (hr : r ∈ rows) :
    (rows.foldl put t).find (key r) = some r := by
  induction rows using List.reverseRecOn with
  | nil => cases hr
  | append_singleton rows r' ih =>
    rw [List.map_append, List.map_singleton, List.nodup_append] at hnd
    rw [List.foldl_concat]
    rcases List.mem_append.1 hr with hr | hr
    · have hne : key r ≠ key r' := hnd.2.2 _ (List.mem_map_of_mem hr) _ List.mem_cons_self
      rw [find_put_of_ne _ hne.symm, ih hnd.1 hr]
    · rw [List.mem_singleton.1 hr, find_put_self]

theorem isSome_find_put (h : (t.find (key r)).isSome) (k : κ) : ((t.put r).find k).isSome =
    (t.find k).isSome := by
  by_cases hk : key r = k
  · rw [← hk, find_put_self, h]
    rfl
  · rw [find_put_of_ne t hk]

variable (t)

/-- A map made of two columns of the rows, the key being the first, holds at `k` what the row of `k` has. -/
theorem lookup_map_rows {β : Type*} (f : ρ → β) (k : κ) :
    (t.rows.map fun r => (key r, f r)).lookup k = (t.find k).map f := by
  unfold find
  induction t.rows with
  | nil => rfl
  | cons r rows ih =>
    by_cases hk : key r = k
    · simp [hk]
    · simp [hk, ih, List.lookup_cons, beq_false_of_ne (Ne.symm hk)]

/-- A statement that leaves the keys alone keeps the table. -/
def mapRows (f : ρ → ρ) (hkey : ∀ r, key (f r) = key r) : Table ρ key where
  rows := t.rows.map f
  nodup := by
    have hcomp : key ∘ f = key := funext hkey
    rw [List.map_map, hcomp]
    exact t.nodup

omit [DecidableEq κ] in
theorem map_key_mapRows (f : ρ → ρ) (hk : ∀ r, key (f r) = key r) : (t.mapRows f hk).rows.map key = t.rows.map key := by
  simp [mapRows, Function.comp_def, hk]

theorem find_mapRows (f : ρ → ρ) (hk : ∀ r, key (f r) = key r) (k : κ) :
    (t.mapRows f hk).find k = (t.find k).map f := by
  simp [find, mapRows, List.find?_map, hk]

/-- `update .. set .. where ..`, row after row: `f` is the new row, or `none` for a row the condition
leaves out. A row whose new key another row holds at that moment makes the statement fail. -/
def rewriteRows (key : ρ → κ) (f : ρ → Option ρ) (done : List ρ) : List ρ → Option (List ρ)
  | [] => some done
  | r :: rest =>
    match f r with
    | none => rewriteRows key f (done ++ [r]) rest
    | some r' =>
      if key r' ∈ (done ++ rest).map key then none else rewriteRows key f (done ++ [r']) rest

variable {f : ρ → Option ρ}

theorem rewriteRows_eq {done rows' : List ρ}
    (h : rewriteRows key f done rows = some rows') : rows' = done ++ rows.map fun r => (f r).getD r := by
  induction rows generalizing done with
  | nil => simpa [rewriteRows] using h.symm
  | cons r rest ih =>
    rw [rewriteRows] at h
    split at h
    · rename_i hr
      simpa [hr] using ih h
    · rename_i r' hr
      split at h
      · cases h
      · simpa [hr] using ih h

theorem rewriteRows_nodup {done rows' : List ρ}
    (h : rewriteRows key f done rows = some rows') (hnd : ((done ++ rows).map key).Nodup) :
    (rows'.map key).Nodup := by
  induction rows generalizing done with
  | nil =>
    simp only [rewriteRows, Option.some.injEq] at h
    simpa [← h] using hnd
  | cons r rest ih =>
    rw [rewriteRows] at h
    split at h
    · exact ih h (by simpa using hnd)
    · rename_i r' hr
      split at h
      · cases h
      · rename_i hf
        refine ih h ?_
        -- the new row stands where the old one stood, under a key no other row has
        rw [List.map_append, List.map_cons, List.nodup_middle, List.nodup_cons, ← List.map_append] at hnd
        rw [List.append_assoc, List.map_append, List.singleton_append, List.map_cons, List.nodup_middle,
          List.nodup_cons, ← List.map_append]
        exact ⟨hf, hnd.2⟩

/-- The table after such a statement. -/
def rewrite (f : ρ → Option ρ) : Option (Table ρ key) :=
  match h : rewriteRows key f [] t.rows with
  | none => none
  | some rows => some ⟨rows, rewriteRows_nodup h t.nodup⟩

theorem rows_rewrite {t : Table ρ key} (h : t.rewrite f = some t') : t'.rows = t.rows.map fun r => (f r).getD r := by
  unfold rewrite at h
  split at h
  · cases h
  · rename_i rows hr
    obtain rfl := Option.some.inj h
    simpa using rewriteRows_eq hr

variable [AddCommMonoid M] {t}

def total (f : ρ → M) (t : Table ρ key) : M := (t.rows.map f).sum

omit [DecidableEq κ] in
@[simp] theorem total_empty (f : ρ → M) : total f (empty : Table ρ key) = 0 := rfl

def valueAt (f : ρ → M) (t : Table ρ key) (k : κ) : M := (t.find k).elim 0 f

theorem valueAt_put (f : ρ → M) :
    (t.put r).valueAt f k = if key r = k then f r else t.valueAt f k := by
  by_cases hk : key r = k
  · subst hk
    simp [valueAt, find_put_self]
  · simp [valueAt, find_put_of_ne t hk, hk]

theorem total_erase (f : ρ → M) (t : Table ρ key) (k : κ) : total f (t.erase k) + t.valueAt f k = total f t := by
  obtain ⟨rows, hnd⟩ := t
  simp only [total, erase, valueAt, find]
  induction rows with
  | nil => simp
  | cons r rows ih =>
    rw [List.map_cons, List.nodup_cons] at hnd
    by_cases hk : key r = k
    · have hr : rows.filter (fun r' => decide (key r' ≠ k)) = rows := by
        refine List.filter_eq_self.2 fun r' hr' => ?_
        have : key r' ≠ k := fun h => hnd.1 (List.mem_map.2 ⟨r', hr', h.trans hk.symm⟩)
        simpa using this
      rw [List.filter_cons_of_neg (by simpa using hk), hr, List.find?_cons_of_pos (by simpa using hk), add_comm]
      simp
    · have := ih hnd.2
      simp only [List.filter_cons, List.find?_cons, hk, ne_eq, not_false_eq_true, decide_true, if_true, decide_false,
        List.map_cons, List.sum_cons]
      rw [add_assoc, this]

theorem total_put (f : ρ → M) (t : Table ρ key) (r : ρ) :
    total f (t.put r) + t.valueAt f (key r) = total f t + f r := by
  rw [← total_erase f t (key r)]
  simp only [total, put, List.map_cons, List.sum_cons]
  abel

theorem valueAt_le_total (f : ρ → Nat) (t : Table ρ key) (k : κ) : t.valueAt f k ≤ total f t := by
  have := total_erase f t k
  omega

omit [DecidableEq κ] in
theorem total_le_total {f g : ρ → Nat} (h : ∀ r ∈ t.rows, f r ≤ g r) : total f t ≤ total g t :=
  List.sum_le_sum h

omit [DecidableEq κ] in
theorem total_eq_zero {f : ρ → Nat} (h : ∀ r ∈ t.rows, f r = 0) : total f t = 0 :=
  List.sum_eq_zero (by simpa using h)

theorem valueAt_of_mem (f : ρ → M) (h : r ∈ t.rows) : t.valueAt f (key r) = f r := by
  rw [valueAt, find_eq_some_iff.2 ⟨h, rfl⟩]
  rfl

theorem valueAt_of_forall_ne (f : ρ → M) (h : ∀ r ∈ t.rows, key r ≠ k) : t.valueAt f k = 0 := by
  rw [valueAt, find_eq_none_iff.2 h]
  rfl

end Table

namespace Transaction

variable {δ ε α : Type*}

/-- Run `body` on a copy of the database and commit it, or drop the copy. -/
def atomically (body : δ → Except ε (α × δ)) (db : δ) : Except ε α × δ :=
  match body db with
  | .ok (a, db') => (.ok a, db')
  | .error e => (.error e, db)

variable {body : δ → Except ε (α × δ)}

theorem atomically_error (h : (atomically body db).1 = .error e) : (atomically body db).2 = db := by
  unfold atomically at h ⊢
  split at h
  · cases h
  · rfl

theorem atomically_ok (h : (atomically body db).1 = .ok a) : body db = .ok (a, (atomically body db).2) := by
  unfold atomically at h ⊢
  split at h
  · rename_i hb
    cases h
    simp only [hb]
  · cases h

end Transaction
