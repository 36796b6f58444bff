import MasqMobile.Session.Manager
import MasqMobile.Settlement.Batch

/-!
# Bytes, words and their hexadecimal texts

`rustc_hex` lies outside the repository: its encoder is `toHex`, its decoder `Primitives.fromHex`, and all that is
used of them is that the decoder inverts the encoder (`Primitives.HexDecodes`). `decodeHex` is a decoder of this kind.
A word or an address is read off its bytes as they stand, most significant first (`ofBytes`).
-/

namespace MasqMobile

/-! ## Bytes -/

/-- `H256::from_slice` and `Address::from_slice`: the number that the bytes write in base 256. -/
def ofBytes (w : Nat) (bytes : List UInt8) : BitVec w := BitVec.ofNat w (bytes.foldl (fun n b => 256 * n + b.toNat) 0)

theorem foldl_wordBytes_take (b : Bytes32) (hk : k ≤ 32) :
    ((List.range k).map fun i => (⟨b.extractLsb' (8 * (31 - i)) 8⟩ : UInt8)).foldl (fun n b => 256 * n + b.toNat) 0 =
      b.toNat / 2 ^ (8 * (32 - k)) := by
  induction k with
  | zero => simp [Nat.div_eq_of_lt b.isLt]
  | succ k ih =>
    have hb : (⟨b.extractLsb' (8 * (31 - k)) 8⟩ : UInt8).toNat = b.toNat / 2 ^ (8 * (31 - k)) % 256 := by
      simp [← UInt8.toNat_toBitVec, BitVec.extractLsb'_toNat, Nat.shiftRight_eq_div_pow]
    have hs : 8 * (32 - k) = 8 * (31 - k) + 8 := by omega
    have hl : 32 - (k + 1) = 31 - k := by omega
    rw [List.range_succ, List.map_append, List.foldl_append, ih (by omega), hs, hl, pow_add, ← Nat.div_div_eq_div_mul]
    simp only [List.map_cons, List.map_nil, List.foldl_cons, List.foldl_nil, hb]
    exact Nat.div_add_mod _ 256

theorem foldl_wordBytes (b : Bytes32) : (wordBytes b).foldl (fun n b => 256 * n + b.toNat) 0 = b.toNat := by
  have h := foldl_wordBytes_take b (Nat.le_refl 32)
  simpa [wordBytes] using h

@[simp] theorem ofBytes_wordBytes (b : Bytes32) : ofBytes 256 (wordBytes b) = b := by
  rw [ofBytes, foldl_wordBytes, BitVec.ofNat_toNat, BitVec.setWidth_eq]

@[simp] theorem length_addressBytes (a : Address) : (addressBytes a).length = 20 := by
  simp [addressBytes, addressWord]

/-- So can an address: the twelve bytes before it in its word are zero. -/
@[simp] theorem ofBytes_addressBytes (a : Address) : ofBytes 160 (addressBytes a) = a := by
  have hw := foldl_wordBytes (a.setWidth 256)
  have ht : ((addressWord a).take 12).foldl (fun n b => 256 * n + b.toNat) 0 = 0 := by
    have hz := foldl_wordBytes_take (a.setWidth 256) (k := 12) (by omega)
    have hr : (List.range 32).take 12 = List.range 12 := by decide
    rw [addressWord, wordBytes, ← List.map_take, hr, hz]
    exact Nat.div_eq_of_lt (by simp only [BitVec.toNat_setWidth]; omega)
  have hs : wordBytes (a.setWidth 256) = (addressWord a).take 12 ++ addressBytes a := (List.take_append_drop 12 _).symm
  rw [hs, List.foldl_append, ht] at hw
  refine BitVec.eq_of_toNat_eq ?_
  rw [ofBytes, hw, BitVec.toNat_ofNat, BitVec.toNat_setWidth]
  omega

/-! ## Hexadecimal texts -/

/-- The decoder of `rustc_hex` inverts its encoder. -/
def Primitives.HexDecodes (P : Primitives) : Prop := ∀ bytes, P.fromHex (toHex bytes) = .ok bytes

/-- The value of a hexadecimal digit. -/
def hexValue (c : Char) : Nat := "0123456789abcdef".toList.idxOf c

def decodeDigits : List Char → Except String (List UInt8)
  | high :: low :: rest => do
    let bytes ← decodeDigits rest
    return UInt8.ofNat (16 * hexValue high + hexValue low) :: bytes
  | [] => .ok []
  | [_] => .error "odd number of digits"

/-- A decoder of hexadecimal texts, for evaluating the model on concrete inputs. -/
def decodeHex (text : String) : Except String (List UInt8) := decodeDigits text.toList

theorem hexValue_hexDigit : ∀ n < 16, hexValue (hexDigit n) = n := by decide

theorem toList_toHex : (toHex byt).toList = byt.flatMap fun b => [hexDigit (b.toNat / 16), hexDigit (b.toNat % 16)] :=
  String.toList_ofList

theorem decodeHex_toHex (bytes : List UInt8) : decodeHex (toHex bytes) = .ok bytes := by
  rw [decodeHex, toList_toHex]
  induction bytes with
  | nil => rfl
  | cons b bytes ih =>
    have hb := b.toNat_lt
    have hby : 16 * (b.toNat / 16) + b.toNat % 16 = b.toNat := Nat.div_add_mod _ 16
    simp only [List.flatMap_cons, List.cons_append, List.nil_append, decodeDigits, ih,
      hexValue_hexDigit (b.toNat / 16) (by omega), hexValue_hexDigit (b.toNat % 16) (by omega), hby]
    simp [bind, Except.bind, pure, Except.pure]

theorem utf8ByteSize_toHex : (toHex byt).utf8ByteSize = 2 * byt.length := by
  have hd : ∀ n < 16, (hexDigit n).utf8Size = 1 := by decide
  rw [toHex, String.utf8ByteSize_ofList]
  induction byt with
  | nil => rfl
  | cons b byt ih =>
    have hb := b.toNat_lt
    simp only [List.flatMap_cons, List.cons_append, List.nil_append, String.utf8Len_cons, ih, List.length_cons,
      hd (b.toNat / 16) (by omega), hd (b.toNat % 16) (by omega)]
    omega

end MasqMobile
