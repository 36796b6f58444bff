import MasqMobile.Lib.Fallible

/-!
# Sequenced packets on the wire

`SequencedPacket` with its `Serialize` and `Visitor` (`node/src/sub_lib/sequence_buffer.rs:17–160`): one byte for
`last_data`, eight for the sequence number, most significant first, and the data. What is read is exactly what was
written, but `visit_bytes` indexes the bytes of a peer without looking at their number: a short string makes it panic.
-/

namespace MasqMobile

open Fallible

/-- Sequence numbers are `u64`. -/
structure SequencedPacket where
  data : List UInt8
  sequenceNumber : Fin (2 ^ 64)
  lastData : Bool
  deriving DecidableEq

/-- Where `visit_bytes` panics: at `v[0]`, or at `&v[1..9]`. -/
inductive VisitPanic
  | indexOutOfBounds
  | rangeEndOutOfRange (length : Nat)
  deriving DecidableEq

namespace SequencedPacketVisitor

/-- The loop of `u64_from`, line 137. -/
def u64FromLoop (bytes : List UInt8) : Fin (2 ^ 64) :=
  bytes.foldl (fun result byte => result * 256 + Fin.ofNat (2 ^ 64) byte.toNat) 0

def u64From (bytes : List UInt8) : Except String (Fin (2 ^ 64)) := do
  failIf (bytes.length ≠ 8) s!"can't make a u64 from {bytes.length} bytes"
  return u64FromLoop bytes

/-- The loop of `u64_to`, line 154, with `todo` bytes to write. -/
def u64ToLoop : Nat → Nat → List UInt8 → List UInt8
  | 0, _, buf => buf
  | todo + 1, remaining, buf => u64ToLoop todo (remaining / 256) (buf.set todo (UInt8.ofNat (remaining % 256)))

def u64To (value : Fin (2 ^ 64)) (buf : List UInt8) : Except String (List UInt8) := do
  failIf (buf.length ≠ 8) s!"can't serialize a u64 into {buf.length} bytes"
  return u64ToLoop 8 value buf

def visitBytes (v : List UInt8) : Except VisitPanic (Except String SequencedPacket) := do
  let first ← okOr v.head? .indexOutOfBounds
  if 1 < first then return .error s!"can't deserialize a bool from {first}"
  failIf (v.length < 9) (.rangeEndOutOfRange v.length)
  return do
    let sequenceNumber ← u64From ((v.drop 1).take 8)
    return ⟨v.drop 9, sequenceNumber, first = 1⟩

end SequencedPacketVisitor

open SequencedPacketVisitor

/-- `serialize`, line 61: the slice of eight bytes is written in place. -/
def SequencedPacket.serialize (p : SequencedPacket) : Except String (List UInt8) := do
  let word ← u64To p.sequenceNumber (List.replicate 8 0)
  return (if p.lastData then 1 else 0) :: word ++ p.data

namespace SequencedPacketVisitor

variable {bytes : List UInt8}

theorem u64FromLoop_append : (u64FromLoop (bytes ++ [byte])).val =
    ((u64FromLoop bytes).val * 256 % 2 ^ 64 + byte.toNat % 2 ^ 64) % 2 ^ 64 := by
  rw [u64FromLoop, List.foldl_append, List.foldl_cons, List.foldl_nil, ← u64FromLoop, Fin.val_add, Fin.val_mul]
  rfl

theorem u64FromLoop_lt (bytes : List UInt8) : (u64FromLoop bytes).val < 256 ^ bytes.length := by
  induction bytes using List.reverseRecOn with
  | nil => exact Nat.one_pos
  | append_singleton bytes byte ih =>
    have hb := byte.toNat_lt
    rw [u64FromLoop_append, List.length_append, List.length_singleton, Nat.pow_succ 256]
    omega

theorem u64FromLoop_turn (h : bytes.length < 8) :
    (u64FromLoop (bytes ++ [byte])).val = (u64FromLoop bytes).val * 256 + byte.toNat := by
  have hp : 256 ^ bytes.length ≤ 256 ^ 7 := Nat.pow_le_pow_right (by decide) (by omega)
  have hlt := u64FromLoop_lt bytes
  have hb := byte.toNat_lt
  rw [u64FromLoop_append]
  omega

theorem u64ToLoop_u64FromLoop (bytes buf : List UInt8) (h : bytes.length ≤ 8) (hbuf : bytes.length ≤ buf.length) :
    u64ToLoop bytes.length (u64FromLoop bytes) buf = bytes ++ buf.drop bytes.length := by
  induction bytes using List.reverseRecOn generalizing buf with
  | nil => rfl
  | append_singleton bytes byte ih =>
    rw [List.length_append, List.length_singleton] at h hbuf ⊢
    have hb := byte.toNat_lt
    have hd : (u64FromLoop (bytes ++ [byte])).val / 256 = u64FromLoop bytes ∧
        UInt8.ofNat ((u64FromLoop (bytes ++ [byte])).val % 256) = byte := by
      rw [u64FromLoop_turn (by omega)]
      refine ⟨by omega, ?_⟩
      rw [show ((u64FromLoop bytes).val * 256 + byte.toNat) % 256 = byte.toNat by omega, UInt8.ofNat_toNat]
    rw [u64ToLoop, hd.1, hd.2, ih _ (by omega) (by simpa using by omega), List.append_assoc]
    congr 1
    rw [List.drop_set, if_neg (by omega), Nat.sub_self, List.drop_eq_getElem_cons (by omega), List.set_cons_zero]
    rfl

theorem exists_u64FromLoop (hk : k ≤ 8) (n : Nat) (h : n < 256 ^ k) :
    ∃ bytes, bytes.length = k ∧ (u64FromLoop bytes).val = n := by
  induction k generalizing n with
  | zero => exact ⟨[], rfl, (Nat.lt_one_iff.1 h).symm⟩
  | succ k ih =>
    obtain ⟨bytes, rfl, hv⟩ := ih (by omega) (n / 256) (by rw [pow_succ] at h; omega)
    refine ⟨bytes ++ [UInt8.ofNat (n % 256)], by simp, ?_⟩
    rw [u64FromLoop_turn (by omega), hv, UInt8.toNat_ofNat']
    omega

theorem u64To_eq_ok_iff {value : Fin (2 ^ 64)} {word : List UInt8} :
    u64To value (List.replicate 8 0) = .ok word ↔ word.length = 8 ∧ u64FromLoop word = value := by
  obtain ⟨bytes, hl, hv⟩ := exists_u64FromLoop le_rfl value value.isLt
  have hw : u64ToLoop 8 value (List.replicate 8 0) = bytes := by
    have h := u64ToLoop_u64FromLoop bytes (List.replicate 8 0) (by omega) (by simp [hl])
    rwa [hl, hv, List.drop_replicate, Nat.sub_self, List.replicate_zero, List.append_nil] at h
  simp only [u64To, bind_eq_ok, failIf_eq_ok, List.length_replicate, pure_eq_ok, hw]
  constructor
  · rintro ⟨-, -, rfl⟩
    exact ⟨hl, Fin.ext hv⟩
  · rintro ⟨hl', rfl⟩
    refine ⟨(), by simp, ?_⟩
    have h := u64ToLoop_u64FromLoop word (List.replicate 8 0) (by omega) (by simp [hl'])
    rw [hl', List.drop_replicate, Nat.sub_self, List.replicate_zero, List.append_nil] at h
    exact hw.symm.trans h

theorem visitBytes_cons : visitBytes (first :: rest) =
    if 1 < first then .ok (.error s!"can't deserialize a bool from {first}")
    else if rest.length < 8 then .error (.rangeEndOutOfRange (rest.length + 1))
    else .ok (.ok ⟨rest.drop 8, u64FromLoop (rest.take 8), first = 1⟩) := by
  by_cases hb : 1 < first
  · simp [visitBytes, okOr, hb, pure, Except.pure, bind, Except.bind]
  · by_cases hl : rest.length < 8
    · simp [visitBytes, okOr, failIf, hb, hl, show rest.length + 1 < 9 by omega, bind, Except.bind]
    · simp [visitBytes, okOr, failIf, u64From, hb, hl, show ¬rest.length + 1 < 9 by omega, pure, Except.pure, bind,
        Except.bind]

/-- What is read as a packet is what the packet is written as. -/
theorem visitBytes_eq_ok_iff : visitBytes v = .ok (.ok p) ↔ p.serialize = .ok v := by
  obtain ⟨data, value, lastData⟩ := p
  simp only [SequencedPacket.serialize, bind_eq_ok, u64To_eq_ok_iff, pure_eq_ok]
  cases v with
  | nil => simp [visitBytes, okOr, bind, Except.bind]
  | cons first rest =>
    rw [visitBytes_cons]
    constructor
    · intro h
      split_ifs at h with hb hl
      · cases h
      · obtain ⟨rfl, rfl, rfl⟩ := SequencedPacket.mk.inj (Except.ok.inj (Except.ok.inj h))
        refine ⟨rest.take 8, ⟨by simpa using by omega, rfl⟩, ?_⟩
        have hf : (if decide (first = 1) then 1 else 0) = first := by
          by_cases h1 : first = 1
          · simp [h1]
          · simp only [h1, decide_false, Bool.false_eq_true, if_false]
            rw [UInt8.lt_iff_toNat_lt, UInt8.toNat_one] at hb
            rw [← UInt8.toNat_inj, UInt8.toNat_one] at h1
            rw [← UInt8.toNat_inj, UInt8.toNat_zero]
            omega
        rw [hf, List.cons_append, List.take_append_drop]
    · rintro ⟨word, ⟨hl, rfl⟩, hv⟩
      obtain ⟨rfl, rfl⟩ := List.cons.inj hv
      cases lastData <;> simp [hl]

/-- **Packets are read as they were written.** A packet is read from its own bytes, and bytes are read, and as no
packet but the one they were written from, exactly if there are nine of them or the first is no `bool`. -/
theorem packet_reading_iff (p : SequencedPacket) (v : List UInt8) :
    (∃ w, p.serialize = .ok w ∧ visitBytes w = .ok (.ok p)) ∧
    (((∃ result, visitBytes v = .ok result) ∧ ∀ q, visitBytes v = .ok (.ok q) ↔ q.serialize = .ok v) ↔
      9 ≤ v.length ∨ ∃ first ∈ v.head?, 1 < first) := by
  constructor
  · obtain ⟨word, hl, hv⟩ := exists_u64FromLoop le_rfl p.sequenceNumber p.sequenceNumber.isLt
    have hs : p.serialize = .ok ((if p.lastData then 1 else 0) :: word ++ p.data) := by
      rw [SequencedPacket.serialize, u64To_eq_ok_iff.2 ⟨hl, Fin.ext hv⟩]
      rfl
    exact ⟨_, hs, visitBytes_eq_ok_iff.2 hs⟩
  · simp only [visitBytes_eq_ok_iff, implies_true, and_true]
    cases v with
    | nil => simp [visitBytes, okOr]
    | cons first rest =>
      rw [visitBytes_cons]
      split_ifs with hb hl
      · simp [hb]
      · simp [hb, hl]
      · simpa [hb] using by omega

/-- Bytes of a peer at which the reader panics. -/
theorem packet_reading_panics : visitBytes [] = .error .indexOutOfBounds ∧
    visitBytes [1, 0, 0] = .error (.rangeEndOutOfRange 3) := by
  decide

end SequencedPacketVisitor

end MasqMobile
