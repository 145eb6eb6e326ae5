import Mathlib.Data.Nat.Bitwise

/-! Big-endian integers of a fixed width in a list of bytes, stored by shifting right and
loaded by shifting left. -/
namespace BigEndian

/-- The byte at each index is the value shifted by what comes after it. -/
def encode : Nat → Nat → List UInt8
  | 0, _ => []
  | width + 1, value => UInt8.ofNat (value >>> (8 * width)) :: encode width value

def decodeFrom (value : Nat) (bytes : List UInt8) : Nat :=
  bytes.foldl (fun value byte => value <<< 8 ||| byte.toNat) value

def decode (bytes : List UInt8) : Nat := decodeFrom 0 bytes

@[simp] theorem encode_length (width value : Nat) : (encode width value).length = width := by
  induction width with
  | zero => rfl
  | succ width ih => simp [encode,ih]

theorem decodeFrom_cons (value : Nat) (byte : UInt8) (rest : List UInt8) :
    decodeFrom value (byte :: rest) = decodeFrom (256 * value + byte.toNat) rest := by
  have small : byte.toNat < 2 ^ 8 := byte.toNat_lt
  have shifted : value <<< 8 ||| byte.toNat = 256 * value + byte.toNat := by
    rw [← Nat.shiftLeft_add_eq_or_of_lt small]
    omega
  rw [decodeFrom,List.foldl_cons,shifted]
  rfl

theorem decodeFrom_encode (width value before : Nat) :
    decodeFrom before (encode width value) = before * 256 ^ width + value % 256 ^ width := by
  induction width generalizing before with
  | zero => simp [encode,decodeFrom,Nat.mod_one]
  | succ width ih =>
    have power : 256 ^ (width + 1) = 256 ^ width * 256 := Nat.pow_succ ..
    have shift : value >>> (8 * width) = value / 256 ^ width := by
      rw [Nat.shiftRight_eq_div_pow,Nat.pow_mul]
    rw [encode,decodeFrom_cons,power,Nat.mod_mul]
    simp only [UInt8.toNat_ofNat']
    grind

theorem decode_encode (width value : Nat) : decode (encode width value) = value % 256 ^ width := by
  rw [decode,decodeFrom_encode]
  omega

theorem decodeFrom_shift (before : Nat) (bytes : List UInt8) :
    decodeFrom before bytes >>> (8 * bytes.length) = before := by
  induction bytes generalizing before with
  | nil => rfl
  | cons byte rest ih =>
    have small : byte.toNat < 256 := byte.toNat_lt
    rw [decodeFrom_cons,List.length_cons,Nat.mul_succ,Nat.shiftRight_add,ih]
    omega

theorem encode_decodeFrom (before : Nat) (bytes : List UInt8) :
    encode bytes.length (decodeFrom before bytes) = bytes := by
  induction bytes generalizing before with
  | nil => rfl
  | cons byte rest ih =>
    have first : UInt8.ofNat (256 * before + byte.toNat) = byte := by
      apply UInt8.toNat_inj.mp
      rw [UInt8.toNat_ofNat']
      have small : byte.toNat < 256 := byte.toNat_lt
      omega
    rw [List.length_cons,encode,decodeFrom_cons,decodeFrom_shift,ih,first]

theorem encode_decode {bytes : List UInt8} (width : bytes.length = count) : encode count (decode bytes) = bytes :=
  width ▸ encode_decodeFrom 0 bytes

theorem decode_lt {bytes : List UInt8} (width : bytes.length = count) : decode bytes < 256 ^ count := by
  have rest := decodeFrom_shift 0 bytes
  rw [width] at rest
  rw [Nat.shiftRight_eq_div_pow,Nat.pow_mul] at rest
  exact Nat.lt_of_div_eq_zero (Nat.pow_pos (by decide)) rest

end BigEndian
