import MasqMobile.Lib.Run

/-!
# Framing of TLS records

`TlsFramer` (`node/src/sub_lib/tls_framer.rs`) cuts the bytes of a stream into TLS records. What does not hold a header
yet is kept for the next piece, but of fewer than four bytes nothing is kept.
-/

namespace MasqMobile

/-- `sub_lib/framer.rs`. -/
structure FramedChunk where
  chunk : List UInt8
  lastChunk : Bool
  deriving DecidableEq

namespace TlsFramer

def preserveHeaderLen : Nat := 4

def isValidContentType (candidate : UInt8) : Bool := 0x14 ≤ candidate ∧ candidate ≤ 0x17

def isValidProtocolVersion (byte1 byte2 : UInt8) : Bool := byte1 = 0x03 ∧ (byte2 = 0x01 ∨ byte2 = 0x03)

def convertToUsize (hiByte loByte : UInt8) : Nat := hiByte.toNat <<< 8 ||| loByte.toNat

/-- `Err 0` says not to try again, and any other error where to. -/
def searchForFrameOffset (data : List UInt8) : Except Nat Nat :=
  match data.findIdx? (· = 0x03) with
  | none => .error 0
  | some 0 => .error 1
  | some (offset + 1) =>
    match data.drop offset with
    | contentType :: byte1 :: byte2 :: _ :: _ :: _ =>
      if isValidContentType contentType && isValidProtocolVersion byte1 byte2 then .ok offset else .error (offset + 1)
    | _ => .error 0 -- `offset + 4 >= data.len()`

/-- The loop, on what is left of the data at `accumulated_offset`. -/
def findFrameOffset (data : List UInt8) : Option Nat :=
  match h : searchForFrameOffset data with
  | .ok offset => some offset
  | .error 0 => none
  | .error (next + 1) => (findFrameOffset (data.drop (next + 1))).map (next + 1 + ·)
termination_by data.length
decreasing_by
  have hd : data ≠ [] := by
    rintro rfl
    simp [searchForFrameOffset] at h
  have := List.length_pos_iff.2 hd
  simp
  omega

/-- Line 18, with `data_so_far` after it. -/
def takeFrame (dataSoFar : List UInt8) : Option FramedChunk × List UInt8 :=
  match findFrameOffset dataSoFar with
  | none =>
    let splitPoint := if dataSoFar.length < preserveHeaderLen then dataSoFar.length
      else dataSoFar.length - preserveHeaderLen
    (none, dataSoFar.drop splitPoint)
  | some offset =>
    let fromOffset := dataSoFar.drop offset
    let length := convertToUsize (fromOffset.getD 3 0) (fromOffset.getD 4 0)
    if 5 + length ≤ fromOffset.length then
      (some ⟨fromOffset.take (5 + length), false⟩, fromOffset.drop (5 + length))
    else (none, fromOffset)

theorem length_takeFrame (data : List UInt8) : (takeFrame data).2.length +
    ((takeFrame data).1.elim 0 fun frame => max 1 frame.chunk.length) ≤ data.length := by
  unfold takeFrame
  cases findFrameOffset data with
  | none => simp
  | some offset =>
    dsimp only
    split_ifs with h
    · simp only [Option.elim_some, List.length_take, List.length_drop] at h ⊢
      omega
    · simp

/-- A framer with the frames that were taken from it. -/
structure Taken where
  dataSoFar : List UInt8 := []
  frames : List FramedChunk := []

/-- `take_frame` until it returns `None`. -/
def takeFrames (dataSoFar : List UInt8) : Taken :=
  match _h : (takeFrame dataSoFar).1 with
  | none => ⟨(takeFrame dataSoFar).2, []⟩
  | some frame =>
    let more := takeFrames (takeFrame dataSoFar).2
    ⟨more.dataSoFar, frame :: more.frames⟩
termination_by dataSoFar.length
decreasing_by
  have := length_takeFrame dataSoFar
  rw [_h, Option.elim_some] at this
  omega

/-- `add_data`, and the frames that can be taken then. -/
def Taken.receive (s : Taken) (piece : List UInt8) : Taken := let t := takeFrames (s.dataSoFar ++ piece)
  ⟨t.dataSoFar, s.frames ++ t.frames⟩

/-- What is kept and what was taken, in bytes. -/
def Taken.size (s : Taken) : Nat := s.dataSoFar.length + (s.frames.map (·.chunk.length)).sum

end TlsFramer

open TlsFramer

structure TlsRecord where
  contentType : UInt8
  minorVersion : UInt8
  payload : List UInt8
  contentType_valid : isValidContentType contentType
  minorVersion_valid : isValidProtocolVersion 0x03 minorVersion
  length_lt : payload.length < 2 ^ 16

namespace TlsRecord

def bytes (r : TlsRecord) : List UInt8 :=
  r.contentType :: 0x03 :: r.minorVersion :: UInt8.ofNat (r.payload.length / 256) :: UInt8.ofNat r.payload.length ::
    r.payload

def stream (records : List TlsRecord) : List UInt8 := (records.map bytes).flatten

def frame (r : TlsRecord) : FramedChunk := ⟨r.bytes, false⟩

theorem length_bytes (r : TlsRecord) : r.bytes.length = 5 + r.payload.length := by
  simp only [bytes, List.length_cons]
  omega

/-- The stream is cut one to three bytes after the start of a record. -/
def CutsHeader : List TlsRecord → Nat → Prop
  | [], _ => False
  | r :: records, n => 0 < n ∧ n < 4 ∨ r.bytes.length ≤ n ∧ CutsHeader records (n - r.bytes.length)

theorem cutsHeader_append (before after : List TlsRecord) (n : Nat) :
    CutsHeader (before ++ after) ((stream before).length + n) ↔ CutsHeader after n := by
  induction before with
  | nil => simp [stream]
  | cons r before ih =>
    have hr := r.length_bytes
    have hs : (stream (r :: before)).length = r.bytes.length + (stream before).length := by simp [stream]
    rw [List.cons_append, CutsHeader, hs, ← ih, show r.bytes.length + (stream before).length + n - r.bytes.length =
      (stream before).length + n by omega]
    constructor
    · rintro (h | h)
      · omega
      · exact h.2
    · exact fun h => .inr ⟨by omega, h⟩

end TlsRecord

open TlsRecord

namespace TlsFramer

variable {r : TlsRecord} {records : List TlsRecord} {data : List UInt8} {pieces : List (List UInt8)} {s : Taken}

theorem takeFrames_eq (h : takeFrame data = (frameOpt, rest)) : takeFrames data = frameOpt.elim ⟨rest, []⟩
    fun frame => ⟨(takeFrames rest).dataSoFar, frame :: (takeFrames rest).frames⟩ := by
  rw [takeFrames]
  split <;> simp_all

theorem size_takeFrames (data : List UInt8) : (takeFrames data).size ≤ data.length := by
  fun_induction takeFrames data with
  | case1 data hn =>
    have := length_takeFrame data
    simp only [Taken.size, List.map_nil, List.sum_nil]
    omega
  | case2 data frame hf more ih =>
    have := length_takeFrame data
    rw [hf, Option.elim_some] at this
    simp only [Taken.size, more, List.map_cons, List.sum_cons] at ih ⊢
    omega

theorem Taken.size_run (s : Taken) (pieces : List (List UInt8)) :
    (Run.run receive s pieces).size ≤ s.size + pieces.flatten.length := by
  induction pieces generalizing s with
  | nil => rfl
  | cons piece pieces ih =>
    have ht := size_takeFrames (s.dataSoFar ++ piece)
    have hr := ih (s.receive piece)
    simp only [size, receive, List.map_append, List.sum_append, List.length_append, Run.run_cons,
      List.flatten_cons] at ht hr ⊢
    omega

theorem searchForFrameOffset_ok (h : searchForFrameOffset data = .ok offset) : 5 ≤ data.length := by
  unfold searchForFrameOffset at h
  split at h
  · cases h
  · cases h
  · rename_i k _
    split at h
    · rename_i hd
      have := congrArg List.length hd
      simp only [List.length_drop, List.length_cons] at this
      omega
    · cases h

theorem findFrameOffset_of_ok (h : searchForFrameOffset data = .ok o) : findFrameOffset data = some o := by
  rw [findFrameOffset]
  split <;> simp_all

theorem findFrameOffset_short (h : data.length < 5) : findFrameOffset data = none := by
  fun_induction findFrameOffset data with
  | case1 data offset ho =>
    have := searchForFrameOffset_ok ho
    omega
  | case2 => rfl
  | case3 data next hn ih => rw [ih (by rw [List.length_drop]; omega), Option.map_none]

theorem takeFrame_short (h : data.length < 5) : takeFrame data = (none, if data.length < 4 then [] else data) := by
  rw [takeFrame, findFrameOffset_short h]
  by_cases h4 : data.length < 4
  · simp [preserveHeaderLen, h4]
  · simp [preserveHeaderLen, h4, show data.length - 4 = 0 by omega]

theorem convertToUsize_ofNat {n : Nat} (h : n < 2 ^ 16) :
    convertToUsize (UInt8.ofNat (n / 256)) (UInt8.ofNat n) = n := by
  rw [convertToUsize, ← Nat.shiftLeft_add_eq_or_of_lt (UInt8.toNat_lt _), Nat.shiftLeft_eq, UInt8.toNat_ofNat',
    UInt8.toNat_ofNat']
  omega

theorem takeFrame_header (h : data <+: r.bytes ++ rest) (h5 : 5 ≤ data.length) :
    takeFrame data = if r.bytes.length ≤ data.length then (some r.frame, data.drop r.bytes.length)
      else (none, data) := by
  match data, h5 with
  | c :: b₁ :: b₂ :: hi :: lo :: body, _ =>
    simp only [bytes, List.cons_append, List.cons_prefix_cons] at h
    obtain ⟨rfl, rfl, rfl, rfl, rfl, hb⟩ := h
    have h3 : r.contentType ≠ 0x03 := by
      intro h
      have := r.contentType_valid
      simp [h, isValidContentType] at this
    rw [takeFrame, findFrameOffset_of_ok (o := 0)
      (by simp [searchForFrameOffset, List.findIdx?_cons, h3, r.contentType_valid, r.minorVersion_valid])]
    simp only [List.drop_zero, List.getD_cons_succ, List.getD_cons_zero, convertToUsize_ofNat r.length_lt,
      r.length_bytes]
    split_ifs with hl
    · simp only [List.length_cons] at hl
      have hp := List.prefix_iff_eq_take.1 (List.prefix_of_prefix_length_le (List.prefix_append _ _) hb (by omega))
      simp [frame, bytes, Nat.add_comm 5, ← hp]
    · rfl

/-- The whole records are taken, and the start of the next is kept. -/
def Kept (records : List TlsRecord) (data : List UInt8) (s : Taken) : Prop :=
  ∃ before after, records = before ++ after ∧ data = stream before ++ s.dataSoFar ∧ s.frames = before.map frame ∧
    ∀ r ∈ after.head?, s.dataSoFar.length < r.bytes.length

theorem takeFrames_stream (h : data <+: stream records) :
    CutsHeader records data.length ∧ (takeFrames data).size < data.length ∨
      ¬CutsHeader records data.length ∧ Kept records data (takeFrames data) := by
  induction records generalizing data with
  | nil =>
    obtain rfl : data = [] := by simpa [stream] using h
    rw [takeFrames_eq (takeFrame_short (by simp))]
    exact .inr ⟨id, [], [], rfl, rfl, rfl, by simp⟩
  | cons r records ih =>
    change data <+: r.bytes ++ stream records at h
    by_cases hl : r.bytes.length ≤ data.length
    · obtain ⟨data, rfl⟩ := List.prefix_of_prefix_length_le (List.prefix_append _ _) h hl
      have hc := cutsHeader_append [r] records data.length
      rw [takeFrames_eq ((takeFrame_header h (hl.trans' (by simp [r.length_bytes]))).trans (if_pos hl)), List.drop_left,
        Option.elim_some, List.length_append]
      rw [List.singleton_append, show (stream [r]).length = r.bytes.length by simp [stream]] at hc
      rw [hc]
      refine (ih ((List.prefix_append_right_inj _).1 h)).imp (And.imp_right fun hs => ?_) (And.imp_right ?_)
      · simp only [Taken.size, List.map_cons, List.sum_cons] at hs ⊢
        change _ + (r.bytes.length + _) < _
        omega
      · rintro ⟨before, after, rfl, hd, hf, ha⟩
        exact ⟨r :: before, after, rfl, by simpa [stream] using hd, by rw [hf]; rfl, ha⟩
    · have hn : takeFrame data = (none, if data.length < 4 then [] else data) := by
        by_cases h5 : data.length < 5
        · exact takeFrame_short h5
        · rw [takeFrame_header h (by omega), if_neg hl, if_neg (by omega)]
      rw [takeFrames_eq hn, CutsHeader]
      by_cases h4 : 0 < data.length ∧ data.length < 4
      · exact .inl ⟨.inl h4, by simpa [Taken.size, h4.2] using h4.1⟩
      · have hd : (if data.length < 4 then [] else data) = data := by
          split_ifs
          · exact (List.length_eq_zero_iff.1 (by omega)).symm
          · rfl
        rw [hd]
        exact .inr ⟨by omega, [], r :: records, rfl, rfl, rfl, by simpa using hl⟩

end TlsFramer

/-- **TLS records get through** if and only if no piece ends within the first three bytes of one. -/
theorem tls_framing_lossless_iff (records : List TlsRecord) (pieces : List (List UInt8))
    (h : pieces.flatten = stream records) : (Run.run Taken.receive {} pieces).frames = records.map frame ↔
      ∀ received, received <+: pieces → ¬CutsHeader records received.flatten.length := by
  suffices hs : ∀ (s : Taken) records, s.dataSoFar ++ pieces.flatten = stream records →
      ¬CutsHeader records s.dataSoFar.length → (∀ r ∈ records.head?, s.dataSoFar.length < r.bytes.length) →
      ((Run.run Taken.receive s pieces).frames = s.frames ++ records.map frame ↔
        ∀ received, received <+: pieces → ¬CutsHeader records (s.dataSoFar ++ received.flatten).length) by
    refine hs {} records h ?_ (by simp [length_bytes])
    cases records <;> simp [CutsHeader, length_bytes]
  clear h
  induction pieces with
  | nil =>
    intro s records hd hc hr
    cases records with
    | nil => simpa using hc
    | cons r records =>
      have := hr r rfl
      simp_all [stream]
  | cons piece pieces ih =>
    intro s records hd hc hr
    rw [List.flatten_cons, ← List.append_assoc] at hd
    rcases takeFrames_stream ⟨_, hd⟩ with ⟨hcut, hlt⟩ | ⟨hcut, before, after, rfl, hb, hf, ha⟩
    · refine iff_of_false (fun hf => ?_) fun h => h [piece] (by simp) (by simpa using hcut)
      -- what is dropped now is missing at the end
      have hle := (s.receive piece).size_run pieces
      have hlen := congrArg List.length hd
      rw [Taken.size, ← Run.run_cons, hf] at hle
      simp [Taken.size, Taken.receive, stream, frame, Function.comp_def] at hle hlen hlt
      omega
    · have hcut' : ∀ received, CutsHeader (before ++ after) (s.dataSoFar ++ (piece :: received).flatten).length ↔
          CutsHeader after ((s.receive piece).dataSoFar ++ received.flatten).length := fun received => by
        rw [List.flatten_cons, ← List.append_assoc, hb, List.append_assoc, List.length_append, cutsHeader_append]
        rfl
      have hd' : stream before ++ ((s.receive piece).dataSoFar ++ pieces.flatten) = stream before ++ stream after := by
        rw [← List.append_assoc, Taken.receive, ← hb, hd]
        simp [stream]
      have hn : ¬CutsHeader after (s.receive piece).dataSoFar.length := by
        simpa using (hcut' []).not.1 (by simpa using hcut)
      rw [Run.run_cons, List.map_append, ← List.append_assoc, ← hf]
      refine (ih (s.receive piece) after (List.append_cancel_left hd') hn ha).trans ⟨fun h received hp => ?_, ?_⟩
      · rcases List.prefix_cons_iff.1 hp with rfl | ⟨received, rfl, hp'⟩
        · simpa using hc
        · exact (hcut' received).not.2 (h received hp')
      · exact fun h received hp => (hcut' received).not.1 (h _ (List.prefix_cons_iff.2 (.inr ⟨_, rfl, hp⟩)))

def sampleRecord : TlsRecord := ⟨0x16, 0x01, [7], rfl, rfl, by decide⟩

/-- The header is cut after its fourth byte, and the record gets through. -/
theorem tls_framing_lossless_sample : [[0x16, 0x03, 0x01, 0x00], [0x01, 7]].flatten = stream [sampleRecord] ∧
    (Run.run Taken.receive {} [[0x16, 0x03, 0x01, 0x00], [0x01, 7]]).frames = [sampleRecord.frame] := by
  have h : [[0x16, 0x03, 0x01, 0x00], [0x01, 7]].flatten = stream [sampleRecord] := rfl
  refine ⟨h, (tls_framing_lossless_iff _ _ h).2 fun received hp => ?_⟩
  rw [← List.mem_inits] at hp
  simp only [List.inits, List.map_cons, List.map_nil, List.mem_cons, List.not_mem_nil, or_false] at hp
  rcases hp with rfl | rfl | rfl <;> simp [CutsHeader, sampleRecord, bytes]

/-- It is cut after its second byte, and the record is lost. -/
theorem tls_framing_loses_record : [[0x16, 0x03], [0x01, 0x00, 0x01, 7]].flatten = stream [sampleRecord] ∧
    (Run.run Taken.receive {} [[0x16, 0x03], [0x01, 0x00, 0x01, 7]]).frames = [] := by
  have hr : ∀ (s : Taken) piece, (s.dataSoFar ++ piece).length < 5 → s.receive piece =
      ⟨if (s.dataSoFar ++ piece).length < 4 then [] else s.dataSoFar ++ piece, s.frames⟩ := by
    intro s piece h
    simp [Taken.receive, takeFrames_eq (takeFrame_short h)]
  refine ⟨rfl, ?_⟩
  rw [Run.run_cons, hr _ _ (by decide), Run.run_cons, hr _ _ (by decide)]
  rfl

end MasqMobile
