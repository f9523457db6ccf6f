import Mathlib.Data.Nat.Digits.Lemmas

/-!
# Numbers in scripts

A number on the script stack is a little-endian byte string. The highest bit of the last
byte is the sign, so a magnitude that would set this bit takes one more byte. Numbers that
are not negative are encoded here in the shortest way, and `decode_encode` says that they
come back, within a limit on the length that the reading opcode sets.
-/

set_option autoImplicit false

namespace ArkadeEscrow.Tapscript

/-- An element of the stack. -/
abbrev Bytes := List UInt8

namespace Number

/-- The little-endian value of the bytes. -/
def magnitude (bytes : Bytes) : Nat := Nat.ofDigits 256 (bytes.map UInt8.toNat)

/-- The shortest little-endian bytes of a value. -/
def littleEndian (n : Nat) : Bytes := (Nat.digits 256 n).map UInt8.ofNat

/-- The sign bit is set. -/
def isNegative (bytes : Bytes) : Bool := bytes.getLast?.any fun last => 0x80 ≤ last

/-- The number that the bytes stand for. -/
def value (bytes : Bytes) : Int :=
  if isNegative bytes then -((magnitude bytes : Int) - 0x80 * 256 ^ (bytes.length - 1))
  else magnitude bytes

/-- Read a number of at most so many bytes. -/
def decode (size : Nat) (bytes : Bytes) : Option Int :=
  if bytes.length ≤ size then some (value bytes) else none

/-- The encoding of a number that is not negative. -/
def encode (n : Nat) : Bytes :=
  if isNegative (littleEndian n) then littleEndian n ++ [0] else littleEndian n

theorem magnitude_littleEndian (n : Nat) : magnitude (littleEndian n) = n := by
  have digits : (littleEndian n).map UInt8.toNat = Nat.digits 256 n := by
    rw [littleEndian, List.map_map]
    conv_rhs => rw [← List.map_id (Nat.digits 256 n)]
    refine List.map_congr_left fun digit member => ?_
    exact UInt8.toNat_ofNat_of_lt (Nat.digits_lt_base (by decide : 1 < 256) member)
  rw [magnitude, digits, Nat.ofDigits_digits]

theorem magnitude_append_zero (bytes : Bytes) : magnitude (bytes ++ [0]) = magnitude bytes := by
  rw [magnitude, magnitude, List.map_append]
  exact Nat.ofDigits_append_zero _

theorem magnitude_encode (n : Nat) : magnitude (encode n) = n := by
  rw [encode]
  split
  · rw [magnitude_append_zero, magnitude_littleEndian]
  · exact magnitude_littleEndian n

theorem isNegative_encode (n : Nat) : isNegative (encode n) = false := by
  rw [encode]
  split
  · rw [isNegative, List.getLast?_append]
    rfl
  · next positive => simpa using positive

theorem value_encode (n : Nat) : value (encode n) = n := by
  rw [value, isNegative_encode, magnitude_encode]
  rfl

theorem length_littleEndian_le {n size : Nat} (bound : n < 256 ^ size) :
    (littleEndian n).length ≤ size := by
  rw [littleEndian, List.length_map]
  exact (Nat.digits_length_le_iff (by omega) n).mpr bound

theorem length_encode_le {n size : Nat} (bound : n < 256 ^ size) :
    (encode n).length ≤ size + 1 := by
  have short := length_littleEndian_le bound
  rw [encode]
  split
  · rw [List.length_append, List.length_singleton]
    omega
  · omega

/-- **A number comes back from its encoding.** -/
theorem decode_encode {n size : Nat} (bound : n < 256 ^ size) :
    decode (size + 1) (encode n) = some (n : Int) := by
  rw [decode, if_pos (length_encode_le bound), value_encode]

end Number

end ArkadeEscrow.Tapscript
