import Mathlib

/-!
# Fallible computations and checked arithmetic

The early returns of a `Result`-returning function and its `checked_*` arithmetic, over arbitrary
error and value types. A function written as a `do` block of `failIf`, `okOr` and calls of other
fallible functions is taken apart by `bind_eq_ok` and the `_eq_ok_iff` lemmas below, which are
all in the simp set: `f x = .ok r` becomes the list of checks that were passed.
-/

namespace Fallible

universe u v

variable {ε : Type v} {α β : Type u} {x : Except ε α} {e : ε}

/-- `if c { return Err(e) }`. -/
def failIf (c : Prop) [Decidable c] (e : ε) : Except ε Unit := if c then .error e else .ok ()

def okOr (o : Option α) (e : ε) : Except ε α :=
  match o with
  | some a => .ok a
  | none => .error e

def mapErr {ε' : Type*} (f : ε → ε') : Except ε α → Except ε' α
  | .ok a => .ok a
  | .error e => .error (f e)

/-- Only whether the computation failed, and how. -/
def verdict : Except ε α → Except ε Unit
  | .ok _ => .ok ()
  | .error e => .error e

theorem verdict_unit (x : Except ε Unit) : verdict x = x := by cases x <;> rfl

@[simp] theorem failIf_eq_ok {c : Prop} [Decidable c] : failIf c e = .ok u ↔ ¬c := by
  unfold failIf
  split <;> simp [*]

@[simp] theorem failIf_eq_error {c : Prop} [Decidable c] : failIf c e = .error e' ↔ c ∧ e = e' := by
  unfold failIf
  split <;> simp [*]

@[simp] theorem okOr_eq_ok : okOr o e = .ok a ↔ o = some a := by
  cases o <;> simp [okOr]

@[simp] theorem okOr_eq_error : okOr o e = .error e' ↔ o = none ∧ e = e' := by
  cases o <;> simp [okOr]

theorem map_eq_ok_iff {f : α → β} : x.map f = .ok b ↔ ∃ a, x = .ok a ∧ f a = b := by
  cases x <;> simp [Except.map]

@[simp] theorem mapErr_eq_ok {ε' : Type*} {f : ε → ε'} : mapErr f x = .ok a ↔ x = .ok a := by
  cases x <;> simp [mapErr]

@[simp] theorem mapErr_eq_error {ε' : Type*} {f : ε → ε'} {e' : ε'} :
    mapErr f x = .error e' ↔ ∃ e, x = .error e ∧ f e = e' := by
  cases x <;> simp [mapErr]

@[simp] theorem verdict_eq_ok : verdict x = .ok u ↔ ∃ a, x = .ok a := by
  cases x <;> simp [verdict]

@[simp] theorem verdict_eq_error : verdict x = .error e ↔ x = .error e := by
  cases x <;> simp [verdict]

variable {f : α → Except ε β}

@[simp] theorem bind_eq_ok : (x >>= f) = .ok b ↔ ∃ a, x = .ok a ∧ f a = .ok b := by
  cases x <;> simp [bind, Except.bind]

@[simp] theorem pure_eq_ok : (pure a : Except ε α) = .ok b ↔ a = b := by
  simp [pure, Except.pure]

theorem exists_bind_pure_iff {β : Type} {x : Except ε Unit} {b : β} : (∃ c, (do x; pure b) = .ok c) ↔ x = .ok () := by
  cases x <;> simp [bind, Except.bind, pure, Except.pure]

theorem bind_eq_error : (x >>= f) = .error e ↔ x = .error e ∨ ∃ a, x = .ok a ∧ f a = .error e := by
  cases x <;> simp [bind, Except.bind]

theorem bind_ne_error (hx : x ≠ .error e) (hf : ∀ a, f a ≠ .error e) : (x >>= f) ≠ .error e := by
  simp [bind_eq_error, hx, hf]

@[simp] theorem map_eq_error_iff {f : α → β} : f <$> x = .error e ↔ x = .error e := by
  cases x <;> simp [Functor.map, Except.map]

theorem pure_ne_error : (pure a : Except ε α) ≠ .error e := by
  simp [pure, Except.pure]

variable {l : List α} {g : α → β}

/-- A computation that passes on `p` and then returns `g`, collected over a list: it passes on every value. -/
theorem mapM_eq_ok_iff {p : α → Prop} (hf : ∀ a b, f a = .ok b ↔ p a ∧ g a = b)
    : l.mapM f = .ok r ↔ (∀ a ∈ l, p a) ∧ l.map g = r := by
  induction l generalizing r with
  | nil => simp
  | cons a l ih =>
    simp only [List.mapM_cons, bind_eq_ok, pure_eq_ok, hf, ih, List.forall_mem_cons, List.map_cons]
    constructor
    · rintro ⟨_, ⟨ha, rfl⟩, _, ⟨hl, rfl⟩, rfl⟩
      exact ⟨⟨ha, hl⟩, rfl⟩
    · rintro ⟨⟨ha, hl⟩, rfl⟩
      exact ⟨_, ⟨ha, rfl⟩, _, ⟨hl, rfl⟩, rfl⟩

theorem mapM_eq_ok_of_forall (h : ∀ a ∈ l, f a = .ok (g a)) : l.mapM f = .ok (l.map g) := by
  induction l with
  | nil => rfl
  | cons a l ih =>
    rw [List.mapM_cons, h a List.mem_cons_self, ih fun a ha => h a (List.mem_cons_of_mem _ ha)]
    rfl

theorem mapM_ne_error (hf : ∀ a, f a ≠ .error e) : ∀ l : List α, l.mapM f ≠ .error e
  | [] => pure_ne_error
  | a :: l => by
    rw [List.mapM_cons]
    exact bind_ne_error (hf a) fun _ => bind_ne_error (mapM_ne_error hf l) fun _ => pure_ne_error

/-! ## Computations that return -/

def Returns (x : Except ε α) : Prop := ∃ a, x = .ok a

theorem returns_ok (a : α) : Returns (.ok a : Except ε α) := ⟨a, rfl⟩

theorem returns_failIf {c : Prop} [Decidable c] (h : ¬c) : Returns (failIf c e) := ⟨(), failIf_eq_ok.2 h⟩

theorem Returns.bind (hx : Returns x) (hf : ∀ a, x = .ok a → Returns (f a)) : Returns (x >>= f) := by
  obtain ⟨a, ha⟩ := hx
  obtain ⟨b, hb⟩ := hf a ha
  exact ⟨b, bind_eq_ok.2 ⟨a, ha, hb⟩⟩

theorem returns_bind_of_ok (hx : x = .ok a) (hf : Returns (f a)) : Returns (x >>= f) := by
  rw [hx]
  exact hf

theorem Returns.map (hx : Returns x) : Returns (x >>= fun a => .ok (g a)) :=
  hx.bind fun a _ => returns_ok (g a)

theorem returns_foldlM {f : β → α → Except ε β} (hf : ∀ b, ∀ a ∈ l, Returns (f b a)) (b : β) :
    Returns (l.foldlM f b) := by
  induction l generalizing b with
  | nil => exact returns_ok b
  | cons a l ih =>
    rw [List.foldlM_cons]
    exact (hf b a List.mem_cons_self).bind fun b' _ => ih (fun b a ha => hf b a (List.mem_cons_of_mem _ ha)) b'

/-! ## Arithmetic of a `w`-bit unsigned integer -/

def checkedAdd (w a b : Nat) : Option Nat := if a + b < 2 ^ w then some (a + b) else none

def checkedMul (w a b : Nat) : Option Nat := if a * b < 2 ^ w then some (a * b) else none

def checkedSub (a b : Nat) : Option Nat := if b ≤ a then some (a - b) else none

@[simp] theorem checkedAdd_eq_some_iff : checkedAdd w a b = some c ↔ a + b < 2 ^ w ∧ a + b = c := by
  unfold checkedAdd
  split <;> simp [*]

@[simp] theorem checkedMul_eq_some_iff : checkedMul w a b = some c ↔ a * b < 2 ^ w ∧ a * b = c := by
  unfold checkedMul
  split <;> simp [*]

@[simp] theorem checkedSub_eq_some_iff : checkedSub a b = some c ↔ b ≤ a ∧ a - b = c := by
  unfold checkedSub
  split <;> simp [*]

def wrappingAdd (w a b : Nat) : Nat := (a + b) % 2 ^ w

def wrappingSub (w a b : Nat) : Nat := (a + (2 ^ w - b)) % 2 ^ w

theorem wrappingAdd_of_lt (h : a + b < 2 ^ w) : wrappingAdd w a b = a + b := Nat.mod_eq_of_lt h

theorem wrappingSub_of_le (hb : b ≤ a) (ha : a < 2 ^ w) : wrappingSub w a b = a - b := by
  have hs : a + (2 ^ w - b) = (a - b) + 2 ^ w := by omega
  rw [wrappingSub, hs, Nat.add_mod_right]
  exact Nat.mod_eq_of_lt (by omega)

end Fallible
