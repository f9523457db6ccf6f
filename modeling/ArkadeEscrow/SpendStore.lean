import ArkadeEscrow.Bitcoin

/-!
# The record of a pending spend

A spend is recorded before its first message leaves the process, and the record goes
through three stages. Each attempt to spend writes its own random token into the record
(`newToken`), and the conditional operations of the store touch only a record with that
token or with none at all (`PendingSpend.matchesToken`).
-/

set_option autoImplicit false

namespace ArkadeEscrow

/-- How far an offchain spend had progressed when its record was last written. -/
inductive SpendStage where
  | submitting | submitted | finalized
  deriving DecidableEq

/-- The state persisted across the submit and finalize round trips. -/
structure PendingSpend where
  id : String
  arkTxid : String
  signedCheckpoints : List String
  stage : SpendStage
  token : String
  arkTx : Option String
  unsignedCheckpoints : List String
  partySignedCheckpoints : List (List String)
  serverSignedArkTx : Option String
  deriving DecidableEq

/-- Two lower-case hexadecimal digits: `{byte:02x}`. -/
def hexByte (byte : UInt8) : List Char :=
  [Nat.digitChar (byte.toNat / 16), Nat.digitChar (byte.toNat % 16)]

/-- Lower-case hexadecimal: `to_lower_hex_string`. -/
def toLowerHex (bytes : List UInt8) : String := String.ofList (bytes.flatMap hexByte)

theorem exists_digitChar_of_mem_toLowerHex {bytes : List UInt8} {c : Char}
    (member : c ∈ (toLowerHex bytes).toList) : ∃ i : Fin 16, c = Nat.digitChar i := by
  rw [toLowerHex, String.toList_ofList, List.mem_flatMap] at member
  obtain ⟨byte, _, member⟩ := member
  have bound := byte.toNat_lt
  simp only [hexByte, List.mem_cons, List.not_mem_nil, or_false] at member
  rcases member with high | low
  · exact ⟨⟨byte.toNat / 16, by omega⟩, high⟩
  · exact ⟨⟨byte.toNat % 16, by omega⟩, low⟩

theorem digitChar_inj {m n : Nat} (hm : m < 16) (hn : n < 16)
    (same : Nat.digitChar m = Nat.digitChar n) : m = n := by
  have digits : ∀ i j : Fin 16, Nat.digitChar i = Nat.digitChar j → i = j := by decide
  exact congrArg Fin.val (digits ⟨m, hm⟩ ⟨n, hn⟩ same)

theorem hexByte_injective : Function.Injective hexByte := by
  intro byte byte' same
  have bound := byte.toNat_lt
  have bound' := byte'.toNat_lt
  obtain ⟨high, rest⟩ := List.cons.inj same
  have high := digitChar_inj (by omega) (by omega) high
  have low := digitChar_inj (by omega) (by omega) (List.cons.inj rest).1
  exact UInt8.toNat_inj.mp (by omega)

/-- **Different bytes have different digits.** -/
theorem toLowerHex_injective : Function.Injective toLowerHex := by
  intro bytes bytes' same
  have digits : bytes.flatMap hexByte = bytes'.flatMap hexByte := String.ofList_injective same
  induction bytes generalizing bytes' with
  | nil =>
      cases bytes' with
      | nil => rfl
      | cons byte' bytes' => simp [hexByte] at digits
  | cons byte bytes ih =>
      cases bytes' with
      | nil => simp [hexByte] at digits
      | cons byte' bytes' =>
          rw [List.flatMap_cons, List.flatMap_cons] at digits
          obtain ⟨first, rest⟩ := List.append_inj digits rfl
          rw [hexByte_injective first, ih (congrArg String.ofList rest) rest]

namespace PendingSpend

/-- The token of an attempt, from 16 random bytes. -/
def newToken (bytes : Vector UInt8 16) : String := String.ofList (bytes.toList.flatMap hexByte)

/-- The record may be touched by the attempt with this token: it carries the same one, or
was written before there were tokens. -/
def matchesToken (existing : PendingSpend) (token : String) : Bool :=
  existing.token == "" || existing.token == token

theorem newToken_length (bytes : Vector UInt8 16) : (newToken bytes).length = 32 := by
  have digits (l : List UInt8) : (l.flatMap hexByte).length = 2 * l.length := by
    induction l with
    | nil => rfl
    | cons byte l ih =>
        rw [List.flatMap_cons, List.length_append, ih, List.length_cons]
        simp only [hexByte, List.length_cons, List.length_nil]
        omega
  simp [newToken, digits]

theorem newToken_ne_empty (bytes : Vector UInt8 16) : newToken bytes ≠ "" := by
  intro empty
  have length := newToken_length bytes
  simp [empty] at length

end PendingSpend

/-- A backend of the store. `remove_if` and `save_if` have default implementations, which
load, compare and write in separate steps; the flags say which of them the backend
replaces by an operation of its own. -/
structure SpendStore where
  overridesRemoveIf : Bool
  overridesSaveIf : Bool

end ArkadeEscrow
