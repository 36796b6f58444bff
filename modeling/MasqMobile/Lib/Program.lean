import Mathlib

/-!
# Programs that may end early

A program over a state returns a value or ends early with an error, and leaves a state either way: what
it did before it ended stays done. For a sequence of writes of which any may be interrupted this means
that a prefix of the writes is done, and which one is determined by the first interruption
(`Writes.each`).
-/

def Program (σ ε α : Type) : Type := σ → Except ε α × σ

namespace Program

variable {σ ε ε' α β : Type}

instance : Monad (Program σ ε) where
  pure a := fun s => (.ok a, s)
  bind x f := fun s =>
    match x s with
    | (.ok a, s') => f a s'
    | (.error e, s') => (.error e, s')

def fail (e : ε) : Program σ ε α := fun s => (.error e, s)

/-- A computation that does not touch the state. -/
def ofExcept (x : Except ε α) : Program σ ε α := fun s => (x, s)

def mapErr (f : ε → ε') (x : Program σ ε α) : Program σ ε' α := fun s =>
  match x s with
  | (.ok a, s') => (.ok a, s')
  | (.error e, s') => (.error (f e), s')

@[simp] theorem pure_apply : (pure a : Program σ ε α) s = (.ok a, s) := rfl

@[simp] theorem fail_apply : (fail e : Program σ ε α) s = (.error e, s) := rfl

@[simp] theorem ofExcept_apply : (ofExcept x : Program σ ε α) s = (x, s) := rfl

section Steps

variable {x : Program σ ε α} {f : α → Program σ ε β} {g : ε → ε'} {s s' : σ} {a : α} {e : ε}

theorem bind_of_ok (h : x s = (.ok a, s')) : (x >>= f) s = f a s' := by
  simp only [bind, h]

theorem bind_of_error (h : x s = (.error e, s')) : (x >>= f) s = (.error e, s') := by
  simp only [bind, h]

theorem mapErr_of_ok (h : x s = (.ok a, s')) : mapErr g x s = (.ok a, s') := by
  simp only [mapErr, h]

theorem mapErr_of_error (h : x s = (.error e, s')) : mapErr g x s = (.error (g e), s') := by
  simp only [mapErr, h]

@[simp] theorem snd_mapErr : (mapErr g x s).2 = (x s).2 := by
  unfold mapErr
  split <;> simp [*]

@[simp] theorem fst_mapErr_eq_ok_iff : (mapErr g x s).1 = .ok a ↔ (x s).1 = .ok a := by
  unfold mapErr
  split <;> simp [*]

end Steps

/-! ## Sequences of writes -/

section Writes

variable {W τ : Type}

/-- The writes in order, until one of them ends early. -/
def each (write : W → Program σ ε Unit) : List W → Program σ ε Unit
  | [] => pure ()
  | x :: xs => do
    write x
    each write xs

variable (fault : Nat → Prop) (clock : σ → Nat) (content : σ → τ) (put : τ → W → τ)

/-- A write takes one tick of the clock. It is done, unless `fault` says that it is interrupted, and then it
leaves the content alone. -/
structure Writes (valid : τ → W → Prop) (write : W → Program σ ε Unit) : Prop where
  done : ∀ {s : σ} {x : W}, valid (content s) x → ¬fault (clock s) →
    ∃ s', write x s = (.ok (), s') ∧ clock s' = clock s + 1 ∧ content s' = put (content s) x
  interrupted : ∀ {s : σ} {x : W}, fault (clock s) → ∃ e s', write x s = (.error e, s') ∧ content s' = content s
  valid_put : ∀ {c : τ} {x y : W}, valid c y → valid (put c x) y

/-- From `s`, exactly the first `k` of the writes `xs` were done. -/
structure CutAt (s : σ) (xs : List W) (k : Nat) (answer : Except ε Unit × σ) : Prop where
  le_length : k ≤ xs.length
  content_eq : content answer.2 = (xs.take k).foldl put (content s)
  before : ∀ j < k, ¬fault (clock s + j)
  cut : k < xs.length → fault (clock s + k)
  ok_iff : answer.1 = .ok () ↔ k = xs.length
  clock_eq : k = xs.length → clock answer.2 = clock s + xs.length

variable {fault clock content put} {valid : τ → W → Prop} {write : W → Program σ ε Unit}

/-- **A sequence of writes is cut somewhere.** -/
theorem Writes.each (h : Writes fault clock content put valid write) (xs : List W) (hv : ∀ x ∈ xs, valid
    (content s) x) :
    ∃ k, CutAt fault clock content put s xs k (Program.each write xs s) := by
  induction xs generalizing s with
  | nil => exact ⟨0, by simp, rfl, by simp, by simp, by simp [Program.each], fun _ => rfl⟩
  | cons x xs ih =>
    rw [Program.each]
    by_cases hf : fault (clock s)
    · obtain ⟨e, s', hw, hc⟩ := h.interrupted (x := x) hf
      refine ⟨0, ?_⟩
      rw [bind_of_error hw]
      exact ⟨by simp, hc, by simp, fun _ => hf, by simp, by simp⟩
    · obtain ⟨s', hw, hcl, hc⟩ := h.done (hv x (by simp)) hf
      have hr : ∀ y ∈ xs, valid (content s') y := fun y hy => hc ▸ h.valid_put (hv y (by simp [hy]))
      obtain ⟨k, hk⟩ := ih hr
      refine ⟨k + 1, ?_⟩
      rw [bind_of_ok hw]
      refine ⟨by simpa using hk.le_length, ?_, ?_, ?_, by simpa using hk.ok_iff, ?_⟩
      · rw [hk.content_eq, hc, List.take_succ_cons, List.foldl_cons]
      · -- the write just done, or one of the rest
        rintro (_ | j) hj
        · exact hf
        · have hl := hk.before j (by omega)
          rwa [hcl, Nat.add_right_comm, Nat.add_assoc] at hl
      · intro hlt
        have hcu := hk.cut (by simpa using hlt)
        rwa [hcl, Nat.add_right_comm, Nat.add_assoc] at hcu
      · intro heq
        rw [hk.clock_eq (by simpa using heq), hcl, List.length_cons]
        omega

end Writes

end Program
