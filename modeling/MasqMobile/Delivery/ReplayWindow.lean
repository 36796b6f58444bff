import MasqMobile.Lib.Fallible
import MasqMobile.Lib.Run

/-!
# The replay window of responses

Model of `ResponseSequenceReplayWindow` (`node/src/proxy_server/mod.rs:117`), with which the proxy server drops
the responses of a stream that it has had before. The window keeps the numbers it admitted in a compressed form:
all below `nextExpectedSequence`, and those of a set. `Refines` ties it to the plain set of admitted numbers.

Sequence numbers are `u64`; `mark` is `2 ^ 64` once the last of them has been counted.
-/

namespace MasqMobile

open Fallible

/-- `MAX_SEQUENCE_REORDER_WINDOW`, `sub_lib/sequence_buffer.rs:15`. -/
def maxSequenceReorderWindow : Nat := 4096

structure ResponseSequenceReplayWindow where
  nextExpectedSequence : Nat := 0
  sequenceSpaceExhausted : Bool := false
  seenOutOfOrder : Finset Nat := ∅

namespace ResponseSequenceReplayWindow

/-- The loop of `admit`. -/
def advance (w : ResponseSequenceReplayWindow) : ResponseSequenceReplayWindow :=
  if w.nextExpectedSequence ∈ w.seenOutOfOrder then
    let seen := w.seenOutOfOrder.erase w.nextExpectedSequence
    match checkedAdd 64 w.nextExpectedSequence 1 with
    | some next => advance { w with nextExpectedSequence := next, seenOutOfOrder := seen }
    | none => { w with sequenceSpaceExhausted := true, seenOutOfOrder := seen }
  else w
termination_by w.seenOutOfOrder.card
decreasing_by exact Finset.card_erase_lt_of_mem ‹_›

/-- `admit`, mod.rs:135. -/
def admitSequence (sequence : Nat) (w : ResponseSequenceReplayWindow) :
    Except String Unit × ResponseSequenceReplayWindow :=
  if w.sequenceSpaceExhausted then (.error "the response sequence space is exhausted", w)
  else if sequence < w.nextExpectedSequence ∨ sequence ∈ w.seenOutOfOrder then
    (.error "the response sequence is duplicate or stale", w)
  else if maxSequenceReorderWindow ≤ sequence - w.nextExpectedSequence then
    (.error "the response sequence exceeds the bounded reorder window", w)
  else (.ok (), advance { w with seenOutOfOrder := insert sequence w.seenOutOfOrder })

/-- All numbers below were admitted. -/
def mark (w : ResponseSequenceReplayWindow) : Nat := if w.sequenceSpaceExhausted then 2 ^ 64 else w.nextExpectedSequence

/-- The window stands for a set of admitted numbers. In the midst of `admit` the set may hold the mark itself. -/
structure Refines (w : ResponseSequenceReplayWindow) (admitted : Finset Nat) : Prop where
  mem_iff : ∀ n, n ∈ admitted ↔ n < w.mark ∨ n ∈ w.seenOutOfOrder
  window : ∀ n ∈ w.seenOutOfOrder, w.mark ≤ n ∧ n < w.mark + maxSequenceReorderWindow ∧ n < 2 ^ 64
  next_lt : w.nextExpectedSequence < 2 ^ 64

variable {w w' : ResponseSequenceReplayWindow} {admitted : Finset Nat}

theorem Refines.turn (h : Refines w admitted) (hm : w.mark ∈ w.seenOutOfOrder) (hw : w'.mark = w.mark + 1)
    (hs : w'.seenOutOfOrder = w.seenOutOfOrder.erase w.mark) (hn : w'.nextExpectedSequence < 2 ^ 64) :
    Refines w' admitted where
  mem_iff n := by
    rw [h.mem_iff, hw, hs, Finset.mem_erase]
    by_cases hn : n = w.mark
    · simp [hn, hm]
    · have hlt : n < w.mark + 1 ↔ n < w.mark := by omega
      simp [hn, hlt]
  window n hn := by
    rw [hs, Finset.mem_erase] at hn
    have := h.window n hn.2
    omega
  next_lt := hn

theorem Refines.advance (h : Refines w admitted) (he : w.sequenceSpaceExhausted = false) :
    Refines w.advance admitted ∧ w.advance.mark ∉ w.advance.seenOutOfOrder := by
  have hw : w.mark = w.nextExpectedSequence := by simp [mark, he]
  -- the set loses the mark at each turn, and its last turn is the one at the end of the number space
  fun_induction ResponseSequenceReplayWindow.advance w with
  | case1 w hm seen next hn ih =>
    rw [checkedAdd_eq_some_iff] at hn
    exact ih (h.turn (hw ▸ hm) (by simp [mark, he, hn.2]) (by rw [hw]) (hn.2 ▸ hn.1)) he (by simp [mark, he])
  | case2 w hm seen hn =>
    have hmax := (h.window _ hm).2.2
    have hlast : w.nextExpectedSequence + 1 = 2 ^ 64 := by
      simp only [checkedAdd, ite_eq_right_iff, reduceCtorEq, imp_false] at hn
      omega
    have ht : Refines ⟨w.nextExpectedSequence, true, seen⟩ admitted :=
      h.turn (hw ▸ hm) (by simp [mark, he, hlast]) (by rw [hw]) h.next_lt
    refine ⟨ht, fun hin => ?_⟩
    have := ht.window _ hin
    simp [mark] at this
  | case3 w hm => exact ⟨h, hw ▸ hm⟩

end ResponseSequenceReplayWindow

/-- The least number that is not in the set. -/
def leastMissing (admitted : Finset Nat) : Nat := Nat.find (Infinite.exists_notMem_finset admitted)

/-- A window beside the numbers it admitted. -/
structure ResponseHistory where
  window : ResponseSequenceReplayWindow := {}
  admitted : Finset Nat := ∅

namespace ResponseHistory

open ResponseSequenceReplayWindow

def receive (r : ResponseHistory) (sequence : Fin (2 ^ 64)) : ResponseHistory :=
  match r.window.admitSequence sequence with
  | (.ok (), window) => ⟨window, insert sequence.val r.admitted⟩
  | (.error _, window) => ⟨window, r.admitted⟩

def received (calls : List (Fin (2 ^ 64))) : ResponseHistory := Run.run receive {} calls

/-- Between two calls. -/
structure Faithful (r : ResponseHistory) : Prop where
  refines : r.window.Refines r.admitted
  settled : r.window.mark ∉ r.window.seenOutOfOrder

variable {r : ResponseHistory}

theorem Faithful.leastMissing_eq (h : r.Faithful) : leastMissing r.admitted = r.window.mark := by
  rw [leastMissing, Nat.find_eq_iff]
  refine ⟨by simp [h.refines.mem_iff, h.settled], fun n hn => ?_⟩
  simp [h.refines.mem_iff, hn]

theorem Faithful.admit_ok_iff (h : r.Faithful) (s : Fin (2 ^ 64)) : (r.window.admitSequence s).1 = .ok () ↔
    s.val ∉ r.admitted ∧ s.val < leastMissing r.admitted + maxSequenceReorderWindow := by
  rw [h.leastMissing_eq, h.refines.mem_iff]
  unfold admitSequence mark
  cases he : r.window.sequenceSpaceExhausted with
  | true => simp
  | false =>
    simp only [Bool.false_eq_true, if_false]
    split_ifs <;> simp_all <;> omega

theorem Faithful.receive (h : r.Faithful) (s : Fin (2 ^ 64)) : (r.receive s).Faithful := by
  unfold ResponseHistory.receive admitSequence
  split_ifs with he hd hf
  · exact h
  · exact h
  · exact h
  · rw [Bool.not_eq_true] at he
    have hin : Refines { r.window with seenOutOfOrder := insert s.val r.window.seenOutOfOrder }
        (insert s.val r.admitted) := by
      refine ⟨fun n => ?_, fun n hn => ?_, h.refines.next_lt⟩
      · simp only [Finset.mem_insert, h.refines.mem_iff]
        exact or_left_comm
      · rcases Finset.mem_insert.1 hn with rfl | hn
        · simp only [mark, he]
          simp at hd ⊢
          omega
        · exact h.refines.window n hn
    exact ⟨(hin.advance he).1, (hin.advance he).2⟩

/-- **The window refines the set of admitted numbers.** -/
theorem replayWindow_refines (calls : List (Fin (2 ^ 64))) :
    (∀ s : Fin (2 ^ 64), ((received calls).window.admitSequence s).1 = .ok () ↔ s.val ∉ (received calls).admitted ∧
      s.val < leastMissing (received calls).admitted + maxSequenceReorderWindow) ∧
    (2 ^ 64 - 1 < leastMissing (received calls).admitted → ∀ s : Fin (2 ^ 64),
      ((received calls).window.admitSequence s).1 = .error "the response sequence space is exhausted") ∧
    (received calls).window.seenOutOfOrder.card ≤ 4095 := by
  have h : (received calls).Faithful := Run.run_invariant Faithful (fun _ s hr => hr.receive s)
    ⟨⟨by simp [mark], by simp, by simp⟩, by simp⟩ calls
  generalize received calls = r at h ⊢
  refine ⟨h.admit_ok_iff, fun hl s => ?_, ?_⟩
  · have hn := h.refines.next_lt
    have he : r.window.sequenceSpaceExhausted := by
      by_contra he
      simp only [h.leastMissing_eq, mark, he] at hl
      simp at hl
      omega
    simp [admitSequence, he]
  · have hsub : r.window.seenOutOfOrder ⊆ Finset.Ioo r.window.mark (r.window.mark + 4096) := by
      intro n hn
      have hb := h.refines.window n hn
      have hne : n ≠ r.window.mark := fun e => h.settled (e ▸ hn)
      simp only [maxSequenceReorderWindow] at hb
      simp only [Finset.mem_Ioo]
      omega
    simpa using Finset.card_le_card hsub

end ResponseHistory

end MasqMobile
