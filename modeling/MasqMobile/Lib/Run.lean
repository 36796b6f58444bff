import Mathlib

/-!
# Runs of a machine

A machine is a step function `step : S → I → S`; a run feeds it a list of inputs. `Along ok s is` says
that `ok` holds of the state and the input at every step of the run. An invariant that every such step
keeps holds after the run, and in every state on the way.
-/

namespace Run

variable {S I : Type*} (step : S → I → S)

def run (s : S) (is : List I) : S := is.foldl step s

/-- `ok` holds of every state and input met on the way. -/
def Along (ok : S → I → Prop) : S → List I → Prop
  | _, [] => True
  | s, i :: is => ok s i ∧ Along ok (step s i) is

instance Along.decidable {ok : S → I → Prop} [∀ s i, Decidable (ok s i)] : ∀ s is, Decidable (Along step ok s is)
  | _, [] => .isTrue trivial
  | s, i :: is => @instDecidableAnd _ _ _ (Along.decidable (step s i) is)

variable {step}

@[simp] theorem run_nil : run step s [] = s := rfl

@[simp] theorem run_cons : run step s (i :: is) = run step (step s i) is := rfl

theorem run_append : run step s (is ++ js) = run step (run step s is) js := by
  simp [run]

variable {s : S}

/-- A property that every step keeps is kept by every run. -/
theorem run_invariant (Inv : S → Prop) (hst : ∀ s i, Inv s → Inv (step s i)) (hs : Inv s)
    (is : List I) : Inv (run step s is) := by
  induction is generalizing s with
  | nil => exact hs
  | cons i is ih => exact ih (hst s i hs)

variable {ok : S → I → Prop} {is : List I}

/-- A property that the steps admitted by `ok` keep is kept by the runs made of such steps. -/
theorem along_invariant (Inv : S → Prop) (hst : ∀ s i, Inv s → ok s i → Inv (step s i))
    (hs : Inv s) (h : Along step ok s is) : Inv (run step s is) := by
  induction is generalizing s with
  | nil => exact hs
  | cons i is ih => exact ih (hst s i hs h.1) h.2

theorem along_of_forall {ok : I → Prop} (h : ∀ i ∈ is, ok i) : Along step (fun _ i => ok i) s is := by
  induction is generalizing s with
  | nil => trivial
  | cons i is ih => exact ⟨h i (by simp), ih fun j hj => h j (by simp [hj])⟩

theorem along_append : Along step ok s (is ++ js) ↔ Along step ok s is ∧ Along step ok (run step s is) js := by
  induction is generalizing s with
  | nil => simp [Along]
  | cons i is ih => simp [Along, ih, and_assoc]

theorem along_and {ok' : S → I → Prop} :
    Along step (fun s i => ok s i ∧ ok' s i) s is ↔ Along step ok s is ∧ Along step ok' s is := by
  induction is generalizing s with
  | nil => simp [Along]
  | cons i is ih =>
    simp only [Along, ih]
    exact and_and_and_comm

/-- Two properties of the steps that agree under an invariant hold along the same runs, if the invariant
survives the steps that have the first. -/
theorem along_congr (Inv : S → Prop) {p q : S → I → Prop}
    (hif : ∀ s i, Inv s → ok s i → (p s i ↔ q s i)) (hst : ∀ s i, Inv s → ok s i → p s i → Inv (step s i))
    (hs : Inv s) (hok : Along step ok s is) : Along step p s is ↔ Along step q s is := by
  induction is generalizing s with
  | nil => exact Iff.rfl
  | cons i is ih =>
    have hh := hif s i hs hok.1
    constructor
    · rintro ⟨hp, hr⟩
      exact ⟨hh.1 hp, (ih (hst s i hs hok.1 hp) hok.2).1 hr⟩
    · rintro ⟨hq, hr⟩
      have hp := hh.2 hq
      exact ⟨hp, (ih (hst s i hs hok.1 hp) hok.2).2 hr⟩

end Run
