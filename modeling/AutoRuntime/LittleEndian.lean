import Mathlib.Data.Nat.Bitwise

/-! Little-endian integers of a fixed width in a list of bytes, written by shifting right and
read by shifting left. -/
namespace LittleEndian

open List Nat

def encode : Nat → Nat → List UInt8
  | 0, _ => []
  | width + 1, value => UInt8.ofNat value :: encode width (value >>> 8)

def decode : List UInt8 → Nat
  | [] => 0
  | byte :: rest => decode rest <<< 8 ||| byte.toNat

/-- Read an integer off the front. -/
def read (width : Nat) (input : List UInt8) : Option (Nat × List UInt8) :=
  if input.length < width then none else some (decode (input.take width),input.drop width)

@[simp] theorem encode_length (width value : Nat) : (encode width value).length = width := by
  induction width generalizing value with
  | zero => rfl
  | succ width ih => simp [encode,ih]

theorem encode_getElem (inside : k < (encode width value).length) :
    (encode width value)[k] = UInt8.ofNat (value >>> (8 * k)) := by
  induction width generalizing value k with
  | zero => simp at inside
  | succ width ih =>
    cases k with
    | zero => rfl
    | succ =>
      simp only [encode,getElem_cons_succ]
      rw [ih,← shiftRight_add]
      congr 2
      omega

theorem decode_cons (byte : UInt8) (rest : List UInt8) :
    decode (byte :: rest) = byte.toNat + 256 * decode rest := by
  have small : byte.toNat < 2 ^ 8 := byte.toNat_lt
  rw [decode,← shiftLeft_add_eq_or_of_lt small]
  omega

theorem decode_encode (width value : Nat) : decode (encode width value) = value % 256 ^ width := by
  induction width generalizing value with
  | zero => simp [encode,decode,mod_one]
  | succ width ih =>
    have power : 256 ^ (width + 1) = 256 * 256 ^ width := pow_succ'
    rw [encode,decode_cons,ih,shiftRight_eq_div_pow,power,mod_mul]
    simp

theorem read_encode (width value : Nat) (rest : List UInt8) :
    read width (encode width value ++ rest) = some (value % 256 ^ width,rest) := by
  have length := encode_length width value
  have long : ¬(encode width value ++ rest).length < width := by simp
  rw [read,if_neg long,take_append_of_le_length (by omega),drop_append_of_le_length (by omega),
    take_of_length_le (by omega),drop_of_length_le (by omega),decode_encode,nil_append]

theorem decode_lt (bytes : List UInt8) : decode bytes < 256 ^ bytes.length := by
  induction bytes with
  | nil => exact Nat.zero_lt_one
  | cons byte =>
    have small : byte.toNat < 256 := byte.toNat_lt
    rw [decode_cons,List.length_cons]
    omega

theorem encode_decode (bytes : List UInt8) : encode bytes.length (decode bytes) = bytes := by
  induction bytes with
  | nil => rfl
  | cons byte rest ih =>
    have small : byte.toNat < 256 := byte.toNat_lt
    have low : UInt8.ofNat (byte.toNat + 256 * decode rest) = byte := by
      apply UInt8.toNat_inj.mp
      rw [UInt8.toNat_ofNat']
      omega
    have high : (byte.toNat + 256 * decode rest) >>> 8 = decode rest := by
      omega
    rw [length_cons,encode,decode_cons,low,high,ih]

theorem read_some {input : List UInt8} (found : read width input = some (value,rest)) :
    input = encode width value ++ rest ∧ value < 256 ^ width := by
  simp only [read] at found
  split at found
  · contradiction
  next long =>
    cases found
    have length : (input.take width).length = width := by
      rw [length_take]
      omega
    have whole := encode_decode (input.take width)
    have bound := decode_lt (input.take width)
    rw [length] at whole bound
    exact ⟨by rw [whole,take_append_drop],bound⟩

end LittleEndian
