import Mathlib

/-!
# Contract ABI tokens

The values that a call of a contract is encoded from, their types, and what is assumed of an encoder and its decoder:
on values of the types that the decoder is given, it inverts the encoder (`Codec.Lawful`). Such a codec exists
(`unary_lawful`).
-/

namespace Abi

inductive ParamType where
  | address
  | bytes
  | uint (bits : Nat)
  | fixedBytes (size : Nat)
  | array (element : ParamType)
  | tuple (fields : List ParamType)

inductive Token where
  | address (value : BitVec 160)
  | bytes (value : List UInt8)
  | uint (value : Nat)
  | fixedBytes (value : List UInt8)
  | array (items : List Token)
  | tuple (fields : List Token)

namespace Token

/-! What a `match` on one constructor reads. -/

def address? : Token → Option (BitVec 160)
  | address value => some value
  | _ => none

def bytes? : Token → Option (List UInt8)
  | bytes value => some value
  | _ => none

def uint? : Token → Option Nat
  | uint value => some value
  | _ => none

def fixedBytes? : Token → Option (List UInt8)
  | fixedBytes value => some value
  | _ => none

def array? : Token → Option (List Token)
  | array items => some items
  | _ => none

def tuple? : Token → Option (List Token)
  | tuple fields => some fields
  | _ => none

end Token

inductive HasType : ParamType → Token → Prop where
  | address (value : BitVec 160) : HasType .address (.address value)
  | bytes (value : List UInt8) : HasType .bytes (.bytes value)
  | uint {bits value : Nat} (h : value < 2 ^ bits) : HasType (.uint bits) (.uint value)
  | fixedBytes {size : Nat} {value : List UInt8} (h : value.length = size) :
      HasType (.fixedBytes size) (.fixedBytes value)
  | array {element : ParamType} {items : List Token} (h : ∀ t ∈ items, HasType element t) :
      HasType (.array element) (.array items)
  | tuple {types : List ParamType} {fields : List Token} (h : List.Forall₂ HasType types fields) :
      HasType (.tuple types) (.tuple fields)

/-- An encoder of token lists and a decoder that is told their types. -/
structure Codec where
  encode : List Token → List UInt8
  decode : List ParamType → List UInt8 → Except String (List Token)

/-- The decoder inverts the encoder on well-typed tokens. -/
def Codec.Lawful (c : Codec) : Prop :=
  ∀ types tokens, List.Forall₂ HasType types tokens → c.decode types (c.encode tokens) = .ok tokens

/-! ## A lawful codec -/

def byteCode (bytes : List UInt8) : Nat := Encodable.encode (bytes.map (·.toNat))

theorem byteCode_injective : Function.Injective byteCode := by
  intro b c h
  have hm := Encodable.encode_injective h
  exact List.map_injective_iff.2 (fun x y hxy => UInt8.toNat_inj.1 hxy) hm

/-- The tokens in one row, each with its constructor in front and the number of its parts. -/
def flat : List Token → List Nat
  | [] => []
  | .address value :: rest => 0 :: value.toNat :: flat rest
  | .bytes value :: rest => 1 :: byteCode value :: flat rest
  | .uint value :: rest => 2 :: value :: flat rest
  | .fixedBytes value :: rest => 3 :: byteCode value :: flat rest
  | .array items :: rest => 4 :: items.length :: (flat items ++ flat rest)
  | .tuple fields :: rest => 5 :: fields.length :: (flat fields ++ flat rest)

/-- A row of as many tokens can be read off the front of a list of numbers. -/
theorem flat_append_inj (ts' : List Token) (r r' : List Nat) (hl : ts.length = ts'.length)
    (h : flat ts ++ r = flat ts' ++ r') : ts = ts' ∧ r = r' := by
  induction ts using flat.induct generalizing ts' r r' with
  | case1 =>
    obtain rfl : ts' = [] := List.length_eq_zero_iff.1 hl.symm
    exact ⟨rfl, by simpa [flat] using h⟩
  | case2 value rest ih =>
    rcases ts' with _ | ⟨_ | _, rest'⟩ <;> simp [flat] at h hl
    obtain ⟨rfl, rfl⟩ := ih rest' r r' hl h.2
    exact ⟨by rw [BitVec.eq_of_toNat_eq h.1], rfl⟩
  | case3 value rest ih =>
    rcases ts' with _ | ⟨_ | _, rest'⟩ <;> simp [flat] at h hl
    obtain ⟨rfl, rfl⟩ := ih rest' r r' hl h.2
    exact ⟨by rw [byteCode_injective h.1], rfl⟩
  | case4 value rest ih =>
    rcases ts' with _ | ⟨_ | _, rest'⟩ <;> simp [flat] at h hl
    obtain ⟨rfl, rfl⟩ := ih rest' r r' hl h.2
    exact ⟨by rw [h.1], rfl⟩
  | case5 value rest ih =>
    rcases ts' with _ | ⟨_ | _, rest'⟩ <;> simp [flat] at h hl
    obtain ⟨rfl, rfl⟩ := ih rest' r r' hl h.2
    exact ⟨by rw [byteCode_injective h.1], rfl⟩
  | case6 items rest ihItems ih =>
    rcases ts' with _ | ⟨_ | _, rest'⟩ <;> simp [flat] at h hl
    obtain ⟨rfl, hr⟩ := ihItems _ _ _ h.1 h.2
    obtain ⟨rfl, rfl⟩ := ih rest' r r' hl hr
    exact ⟨rfl, rfl⟩
  | case7 fields rest ihFields ih =>
    rcases ts' with _ | ⟨_ | _, rest'⟩ <;> simp [flat] at h hl
    obtain ⟨rfl, hr⟩ := ihFields _ _ _ h.1 h.2
    obtain ⟨rfl, rfl⟩ := ih rest' r r' hl hr
    exact ⟨rfl, rfl⟩

def unaryEncode (tokens : List Token) : List UInt8 := List.replicate (Encodable.encode (tokens.length :: flat tokens)) 0

theorem unaryEncode_injective : Function.Injective unaryEncode := by
  intro ts ts' h
  have hr := Encodable.encode_injective (List.replicate_left_injective 0 h)
  obtain ⟨hl, hf⟩ := List.cons.inj hr
  exact (flat_append_inj ts' [] [] hl (by rw [hf])).1

open Classical in
noncomputable def unary : Codec where
  encode := unaryEncode
  decode _ bytes := if h : ∃ tokens, unaryEncode tokens = bytes then .ok h.choose else .error "not an encoding"

theorem unary_lawful : unary.Lawful := by
  intro t tokens _
  have he : ∃ ts, unaryEncode ts = unaryEncode tokens := ⟨tokens, rfl⟩
  have hc : he.choose = tokens := unaryEncode_injective he.choose_spec
  simp only [unary, dif_pos he, hc]

end Abi
