import AutoRuntime.BigEndian
import AutoRuntime.Status

/-! What the network components share: integers in network order and numeric addresses. A
load reads at the front of the bytes it is given, where the source passes a pointer. -/
namespace AutoRuntime

def storeU16 (value : UInt16) : Bytes := BigEndian.encode 2 value.toNat

def storeU32 (value : UInt32) : Bytes := BigEndian.encode 4 value.toNat

def storeU64 (value : UInt64) : Bytes := BigEndian.encode 8 value.toNat

def loadU16 (source : Bytes) : UInt16 := UInt16.ofNat (BigEndian.decode (source.take 2))

def loadU32 (source : Bytes) : UInt32 := UInt32.ofNat (BigEndian.decode (source.take 4))

def loadU64 (source : Bytes) : UInt64 := UInt64.ofNat (BigEndian.decode (source.take 8))

def isDigit (character : UInt8) : Bool := 48 ≤ character && character ≤ 57

/-- `inet_pton` for `AF_INET`: four decimal octets without leading zeros, with a dot between
them. The count is of the octets begun, the value of the one being read. -/
def inetPton (octets : Nat) : Option Nat → Bytes → Bool
  | _, [] => octets = 4
  | none, character :: rest =>
    isDigit character && octets < 4 && inetPton (octets + 1) (some (character.toNat - 48)) rest
  | some value, character :: rest =>
    if isDigit character then
      let grown := value * 10 + (character.toNat - 48)
      value ≠ 0 && grown ≤ 255 && inetPton octets (some grown) rest
    else character = 46 && octets < 4 && inetPton octets none rest

/-- The system call reads up to the first zero byte. -/
def parseIpv4 (address : Bytes) : Bool := inetPton 0 none (address.takeWhile (· ≠ 0))

@[simp] theorem storeU16_length (value : UInt16) : (storeU16 value).length = 2 :=
  BigEndian.encode_length 2 _

@[simp] theorem storeU32_length (value : UInt32) : (storeU32 value).length = 4 :=
  BigEndian.encode_length 4 _

@[simp] theorem storeU64_length (value : UInt64) : (storeU64 value).length = 8 :=
  BigEndian.encode_length 8 _

@[simp] theorem loadU16_store (value : UInt16) (rest : Bytes) : loadU16 (storeU16 value ++ rest) = value := by
  have bound : value.toNat % 256 ^ 2 = value.toNat := Nat.mod_eq_of_lt value.toNat_lt
  rw [loadU16,List.take_left' (storeU16_length value),storeU16,BigEndian.decode_encode,bound]
  exact UInt16.ofNat_toNat

@[simp] theorem loadU32_store (value : UInt32) (rest : Bytes) : loadU32 (storeU32 value ++ rest) = value := by
  have bound : value.toNat % 256 ^ 4 = value.toNat := Nat.mod_eq_of_lt value.toNat_lt
  rw [loadU32,List.take_left' (storeU32_length value),storeU32,BigEndian.decode_encode,bound]
  exact UInt32.ofNat_toNat

@[simp] theorem loadU64_store (value : UInt64) (rest : Bytes) : loadU64 (storeU64 value ++ rest) = value := by
  have bound : value.toNat % 256 ^ 8 = value.toNat := Nat.mod_eq_of_lt value.toNat_lt
  rw [loadU64,List.take_left' (storeU64_length value),storeU64,BigEndian.decode_encode,bound]
  exact UInt64.ofNat_toNat

theorem storeU16_load (source : Bytes) (enough : 2 ≤ source.length) : storeU16 (loadU16 source) = source.take 2 := by
  have width : (source.take 2).length = 2 := List.length_take_of_le enough
  rw [storeU16,loadU16,UInt16.toNat_ofNat_of_lt' (BigEndian.decode_lt width)]
  exact BigEndian.encode_decode width

theorem storeU64_load (source : Bytes) (enough : 8 ≤ source.length) : storeU64 (loadU64 source) = source.take 8 := by
  have width : (source.take 8).length = 8 := List.length_take_of_le enough
  rw [storeU64,loadU64,UInt64.toNat_ofNat_of_lt' (BigEndian.decode_lt width)]
  exact BigEndian.encode_decode width

example : parseIpv4 [49,50,55,46,48,46,48,46,49] = true := by decide

example : parseIpv4 [49,46,50,46,48,51,46,52] = false := by decide

end AutoRuntime
