import ArkadeEscrow.Batch.Interface
import ArkadeEscrow.Data.Hex
import ArkadeEscrow.Payout

/-!
# The keys of the Ruby API

Every key that the Ruby API is given is a hexadecimal string, which `hexTo32Bytes` parses. It
counts the bytes of the string, splits them into pairs, and leaves the pairs to
`u8::from_str_radix`, which reads a number: a plus sign may stand before its digits. Strings
are UTF-8, so a pair may also be a part of a character.
-/

set_option autoImplicit false

namespace ArkadeEscrow
namespace Ruby

/-! ## The standard library -/

/-- `str::strip_prefix`. -/
def stripPrefix (s pre : String) : Option String :=
  if pre.toList <+: s.toList then some (String.ofList (s.toList.drop pre.toList.length)) else none

/-- `str::as_bytes`. -/
def asBytes (s : String) : List UInt8 := s.toUTF8.data.toList

/-- `slice::chunks(2)`. -/
def chunks2 {α : Type} : List α → List (List α)
  | a :: b :: rest => [a, b] :: chunks2 rest
  | [a] => [[a]]
  | [] => []

/-- `str::Utf8Error`. -/
structure Utf8Error where
  validUpTo : Nat
  errorLen : Option Nat

/-- The `Display` text. -/
def Utf8Error.text (e : Utf8Error) : String :=
  match e.errorLen with
  | some errorLen => s!"invalid utf-8 sequence of {errorLen} bytes from index {e.validUpTo}"
  | none => s!"incomplete utf-8 byte sequence from index {e.validUpTo}"

/-- How many bytes a character has that starts with this one. -/
def utf8CharWidth (first : UInt8) : Nat :=
  if first < 0x80 then 1
  else if 0xC2 ≤ first ∧ first ≤ 0xDF then 2
  else if 0xE0 ≤ first ∧ first ≤ 0xEF then 3
  else if 0xF0 ≤ first ∧ first ≤ 0xF4 then 4
  else 0

/-- Overlong characters, surrogates and characters past the last one are ruled out by the
second byte. -/
def isSecondByte (first second : UInt8) : Bool :=
  decide ((if first = 0xE0 then 0xA0 else if first = 0xF0 then 0x90 else 0x80) ≤ second ∧
    second ≤ (if first = 0xED then 0x9F else if first = 0xF4 then 0x8F else 0xBF))

def isContinuationByte (byte : UInt8) : Bool := decide (0x80 ≤ byte ∧ byte ≤ 0xBF)

def runUtf8Validation (index : Nat) : List UInt8 → Except Utf8Error Unit
  | [] => .ok ()
  | first :: rest =>
      match utf8CharWidth first, rest with
      | 0, _ => .error ⟨index, some 1⟩
      | 1, rest => runUtf8Validation (index + 1) rest
      | _, [] => .error ⟨index, none⟩
      | 2, second :: rest =>
          if isSecondByte first second then runUtf8Validation (index + 2) rest
          else .error ⟨index, some 1⟩
      | 3, second :: rest =>
          if isSecondByte first second then
            match rest with
            | [] => .error ⟨index, none⟩
            | third :: rest =>
                if isContinuationByte third then runUtf8Validation (index + 3) rest
                else .error ⟨index, some 2⟩
          else .error ⟨index, some 1⟩
      | _, second :: rest =>
          if isSecondByte first second then
            match rest with
            | [] => .error ⟨index, none⟩
            | third :: rest =>
                if isContinuationByte third then
                  match rest with
                  | [] => .error ⟨index, none⟩
                  | fourth :: rest =>
                      if isContinuationByte fourth then runUtf8Validation (index + 4) rest
                      else .error ⟨index, some 3⟩
                else .error ⟨index, some 2⟩
          else .error ⟨index, some 1⟩

/-- `str::from_utf8`. A `str` is its bytes. -/
def fromUtf8 (bytes : List UInt8) : Except String (List UInt8) :=
  match runUtf8Validation 0 bytes with
  | .ok () => .ok bytes
  | .error e => .error e.text

/-- `char::to_digit`. -/
def toDigit (c : UInt8) (radix : Nat) : Option Nat :=
  let digit :=
    if 0x30 ≤ c ∧ c ≤ 0x39 then some (c.toNat - 0x30)
    else if 0x61 ≤ c ∧ c ≤ 0x7A then some (c.toNat - 0x61 + 10)
    else if 0x41 ≤ c ∧ c ≤ 0x5A then some (c.toNat - 0x41 + 10)
    else none
  digit.filter fun digit => digit < radix

/-- The digits of a number, after those that made `result`. -/
def addDigits (radix : Nat) : List UInt8 → Nat → Except String UInt8
  | [], result => .ok (UInt8.ofNat result)
  | c :: digits, result =>
      match toDigit c radix with
      | none => .error "invalid digit found in string"
      | some digit =>
          if result * radix + digit < 256 then addDigits radix digits (result * radix + digit)
          else .error "number too large to fit in target type"

/-- `+`. -/
def plusSign : UInt8 := 0x2B

/-- `-`. -/
def minusSign : UInt8 := 0x2D

/-- `u8::from_str_radix`. -/
def fromStrRadix (src : List UInt8) (radix : Nat) : Except String UInt8 :=
  match src with
  | [] => .error "cannot parse integer from empty string"
  | first :: rest =>
      if rest = [] ∧ (first = plusSign ∨ first = minusSign) then
        .error "invalid digit found in string"
      else addDigits radix (if first = plusSign then rest else src) 0

/-- `out[i] = byte`, which panics where there is no such element. -/
def setAt {n : Nat} (out : Vector UInt8 n) (i : Nat) (byte : UInt8) : Option (Vector UInt8 n) :=
  if bound : i < n then some (out.set i byte bound) else none

/-! ## Parsing -/

/-- The byte of a chunk. -/
def parseChunk (chunk : List UInt8) : Except Error UInt8 := do
  let s ← ofDisplay (fromUtf8 chunk)
  ofDisplay (fromStrRadix s 16)

/-- The body of the loop: the byte of a chunk is written to where it belongs. -/
def writeChunk (out : Vector UInt8 32) (entry : List UInt8 × Nat) : Checked (Vector UInt8 32) := do
  let (chunk, i) := entry
  let byte ← parseChunk chunk
  setAt out i byte

def hexTo32Bytes (hex : String) : Checked (Vector UInt8 32) := do
  let hex := (stripPrefix hex "0x").getD hex
  ensure (hex.utf8ByteSize == 64) s!"expected 64 hex chars, got {hex.utf8ByteSize}"
  (chunks2 (asBytes hex)).zipIdx.foldlM writeChunk (Vector.replicate 32 0)

/-- The head of the functions that parse a key: the bytes, and then the key. -/
def parseKey {Key : Type} (fromSlice : List UInt8 → Except String Key) (hex : String) :
    Checked Key := do
  let bytes ← hexTo32Bytes hex
  ofDisplay (fromSlice bytes.toList)

def parseXonly (B : BitcoinLib) (hex : String) : Checked XOnlyPublicKey :=
  parseKey B.keyFromSlice hex

/-- `secretKeyFromSlice` is `SecretKey::from_slice`, and `fromSecretKey` is
`Keypair::from_secret_key`. -/
def parseSecretKey {SecretKey : Type} (secretKeyFromSlice : List UInt8 → Except String SecretKey)
    (fromSecretKey : SecretKey → Keypair) (hex : String) : Checked Keypair := do
  let sk ← parseKey secretKeyFromSlice hex
  return fromSecretKey sk

end Ruby
end ArkadeEscrow
