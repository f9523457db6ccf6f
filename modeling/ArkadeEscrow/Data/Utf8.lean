import Mathlib.Data.List.Basic

/-!
# ASCII in UTF-8

The bytes of a string are those of its characters, one after the other (`utf8_eq_flatMap`).
A byte below 128 is a character of its own, wherever it stands: it is the code of an ASCII
character (`utf8_cons_ascii`), and no other character starts with it
(`exists_cons_of_utf8_eq_cons`). So a parser that only accepts ASCII may look at the bytes.
-/

set_option autoImplicit false

namespace ArkadeEscrow.Utf8

/-- The bytes of a text. -/
def utf8 (text : List Char) : List UInt8 := text.flatMap String.utf8EncodeChar

theorem utf8_eq_flatMap (s : String) : s.toUTF8.data.toList = utf8 s.toList := by
  rw [String.toUTF8_eq_toByteArray, ← String.utf8Encode_toList]
  exact List.toList_data_toByteArray

theorem utf8_eq_nil_iff {text : List Char} : utf8 text = [] ↔ text = [] := by
  constructor
  · intro empty
    match text with
    | [] => rfl
    | c :: rest =>
        rw [utf8, List.flatMap_cons] at empty
        exact absurd (List.append_eq_nil_iff.mp empty).1 String.utf8EncodeChar_ne_nil
  · rintro rfl
    rfl

/-- What holds of all codes below 128 holds of the ASCII characters. -/
theorem ascii_all {P : Char → Prop} (codes : ∀ n < 128, P (Char.ofNat n)) {c : Char}
    (ascii : c.toNat < 128) : P c := by
  have holds := codes c.toNat ascii
  rwa [Char.ofNat_toNat] at holds

theorem ascii_of_le {c bound : Char} (below : c ≤ bound) (ascii : bound.toNat < 128) :
    c.toNat < 128 :=
  Nat.lt_of_le_of_lt (UInt32.le_iff_toNat_le.mp (Char.le_def.mp below)) ascii

theorem utf8EncodeChar_ascii {c : Char} (ascii : c.toNat < 128) :
    String.utf8EncodeChar c = [c.toUInt8] := by
  refine String.utf8EncodeChar_eq_singleton (Char.utf8Size_eq_one_iff.mpr ?_)
  exact UInt32.le_iff_toNat_le.mpr (Nat.le_of_lt_succ ascii)

/-- An ASCII character is one byte. -/
theorem utf8_cons_ascii {c : Char} (ascii : c.toNat < 128) (text : List Char) :
    utf8 (c :: text) = c.toUInt8 :: utf8 text := by
  rw [utf8, List.flatMap_cons, utf8EncodeChar_ascii ascii]
  rfl

/-- The bit that marks the first byte of a longer character. -/
theorem le_or_of_le {mark : UInt8} (marked : 128 ≤ mark.toNat) (rest : UInt8) :
    128 ≤ (rest ||| mark).toNat := by
  rw [UInt8.toNat_or]
  exact Nat.le_trans marked Nat.right_le_or

/-- Any other character starts with a byte from 128 on. -/
theorem exists_utf8EncodeChar {c : Char} (wide : 128 ≤ c.toNat) :
    ∃ first rest, String.utf8EncodeChar c = first :: rest ∧ 128 ≤ first.toNat := by
  rcases Char.utf8Size_eq c with one | two | three | four
  · have bound := UInt32.le_iff_toNat_le.mp (Char.utf8Size_eq_one_iff.mp one)
    exact absurd (Nat.lt_of_le_of_lt bound (by decide)) (Nat.not_lt.mpr wide)
  · exact ⟨_, _, String.utf8EncodeChar_eq_cons_cons two, le_or_of_le (by decide) _⟩
  · exact ⟨_, _, String.utf8EncodeChar_eq_cons_cons_cons three, le_or_of_le (by decide) _⟩
  · exact ⟨_, _, String.utf8EncodeChar_eq_cons_cons_cons_cons four, le_or_of_le (by decide) _⟩

/-- **A byte below 128 is an ASCII character.** -/
theorem exists_cons_of_utf8_eq_cons {text : List Char} {byte : UInt8} {bytes : List UInt8}
    (encoded : utf8 text = byte :: bytes) (ascii : byte.toNat < 128) :
    ∃ c rest, text = c :: rest ∧ c.toNat < 128 ∧ c.toUInt8 = byte ∧ utf8 rest = bytes := by
  cases text with
  | nil => cases encoded
  | cons c rest =>
      rcases Nat.lt_or_ge c.toNat 128 with narrow | wide
      · rw [utf8_cons_ascii narrow] at encoded
        obtain ⟨same, later⟩ := List.cons.inj encoded
        exact ⟨c, rest, rfl, narrow, same, later⟩
      · obtain ⟨first, others, char, high⟩ := exists_utf8EncodeChar wide
        rw [utf8, List.flatMap_cons, char] at encoded
        obtain ⟨rfl, _⟩ := List.cons.inj encoded
        exact absurd ascii (Nat.not_lt.mpr high)

end ArkadeEscrow.Utf8
