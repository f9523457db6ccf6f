import ArkadeEscrow.Data.Utf8
import Mathlib.Algebra.Group.Nat.Even

/-!
# Hexadecimal text

Two digits are a byte, the high one first. `readPairs` reads a text so, for any two functions
that give the values of the first and of the second symbol of a pair; `readHex` is the case of
hexadecimal digits. A text is read just when it consists of pairs that have values
(`exists_readPairs_iff`), where the symbols are ASCII it makes no difference whether they are
characters or bytes (`readPairs_utf8`), and what is read as digits determines the text up to
the case of its letters (`map_toLower_of_readHex`).
-/

set_option autoImplicit false

namespace ArkadeEscrow.Hex

variable {α : Type}

/-- The value of a hexadecimal digit. -/
def value (c : Char) : Option Nat :=
  if '0' ≤ c ∧ c ≤ '9' then some (c.toNat - '0'.toNat)
  else if 'a' ≤ c ∧ c ≤ 'f' then some (c.toNat - 'a'.toNat + 10)
  else if 'A' ≤ c ∧ c ≤ 'F' then some (c.toNat - 'A'.toNat + 10)
  else none

/-- `0` to `9`, `a` to `f` and `A` to `F`. -/
def IsDigit (c : Char) : Prop := (value c).isSome

instance (c : Char) : Decidable (IsDigit c) := inferInstanceAs (Decidable (_ = true))

/-- The bytes of a text, two symbols each. -/
def readPairs (high low : α → Option Nat) : List α → Option (List UInt8)
  | [] => some []
  | a :: b :: rest => do
      let h ← high a
      let l ← low b
      let bytes ← readPairs high low rest
      return UInt8.ofNat (16 * h + l) :: bytes
  | [_] => none

/-- The bytes that hexadecimal digits denote. -/
def readHex (text : List Char) : Option (List UInt8) := readPairs value value text

/-- The text consists of pairs, with a `p` first and a `q` second. -/
def InPairs (p q : α → Prop) : List α → Prop
  | [] => True
  | a :: b :: rest => p a ∧ q b ∧ InPairs p q rest
  | [_] => False

/-! ## Pairs -/

section Pairs

variable {high low : α → Option Nat} {p q : α → Prop}

theorem readPairs_cons_eq_some_iff {a b : α} {rest : List α} {bytes : List UInt8} :
    readPairs high low (a :: b :: rest) = some bytes ↔ ∃ h l later, high a = some h ∧
      low b = some l ∧ readPairs high low rest = some later ∧
        bytes = UInt8.ofNat (16 * h + l) :: later := by
  simp only [readPairs, Option.bind_eq_bind, Option.bind_eq_some_iff, Option.pure_def,
    Option.some.injEq]
  constructor
  · rintro ⟨h, first, l, second, later, read, same⟩
    exact ⟨h, l, later, first, second, read, same.symm⟩
  · rintro ⟨h, l, later, first, second, read, same⟩
    exact ⟨h, first, l, second, later, read, same.symm⟩

theorem length_of_readPairs {text : List α} {bytes : List UInt8}
    (read : readPairs high low text = some bytes) : text.length = 2 * bytes.length := by
  fun_induction readPairs high low text generalizing bytes with
  | case1 =>
      cases read
      rfl
  | case2 a b rest ih =>
      obtain ⟨_, _, later, _, _, read', rfl⟩ := readPairs_cons_eq_some_iff.mp read
      rw [List.length_cons, List.length_cons, List.length_cons, ih read']
      omega
  | case3 a => cases read

theorem readPairs_congr {high' : α → Option Nat} {text : List α}
    (same : ∀ a ∈ text, high a = high' a) : readPairs high low text = readPairs high' low text := by
  fun_induction readPairs high low text with
  | case1 => rfl
  | case2 a b rest ih =>
      rw [readPairs, same a (by simp), ih fun c member => same c (by simp [member])]
  | case3 a => rfl

theorem readPairs_map {β : Type} {high' low' : β → Option Nat} {f : α → β}
    (first : ∀ a v, high a = some v → high' (f a) = some v)
    (second : ∀ a v, low a = some v → low' (f a) = some v) {text : List α} {bytes : List UInt8}
    (read : readPairs high low text = some bytes) :
    readPairs high' low' (text.map f) = some bytes := by
  fun_induction readPairs high low text generalizing bytes with
  | case1 => exact read
  | case2 a b rest ih =>
      obtain ⟨h, l, later, readA, readB, readRest, same⟩ := readPairs_cons_eq_some_iff.mp read
      exact readPairs_cons_eq_some_iff.mpr
        ⟨h, l, later, first a h readA, second b l readB, ih readRest, same⟩
  | case3 a => cases read

/-- **What is read** are pairs that have values. -/
theorem exists_readPairs_iff {text : List α} :
    (∃ bytes, readPairs high low text = some bytes) ↔
      InPairs (fun a => (high a).isSome) (fun b => (low b).isSome) text := by
  fun_induction readPairs high low text with
  | case1 => exact ⟨fun _ => trivial, fun _ => ⟨[], rfl⟩⟩
  | case2 a b rest ih =>
      rw [InPairs, ← ih, Option.isSome_iff_exists, Option.isSome_iff_exists]
      constructor
      · rintro ⟨bytes, read⟩
        obtain ⟨h, l, later, first, second, read', _⟩ := readPairs_cons_eq_some_iff.mp read
        exact ⟨⟨h, first⟩, ⟨l, second⟩, later, read'⟩
      · rintro ⟨⟨h, first⟩, ⟨l, second⟩, later, read'⟩
        exact ⟨_, readPairs_cons_eq_some_iff.mpr ⟨h, l, later, first, second, read', rfl⟩⟩
  | case3 a => exact ⟨nofun, nofun⟩

theorem InPairs.imp {p' q' : α → Prop} {text : List α} (first : ∀ a ∈ text, p a → p' a)
    (second : ∀ a ∈ text, q a → q' a) (pairs : InPairs p q text) : InPairs p' q' text := by
  fun_induction InPairs p q text with
  | case1 => trivial
  | case2 a b rest ih =>
      obtain ⟨holds, holds', later⟩ := pairs
      refine ⟨first a (by simp) holds, second b (by simp) holds', ih ?_ ?_ later⟩
      · exact fun c member => first c (by simp [member])
      · exact fun c member => second c (by simp [member])
  | case3 a => exact pairs

/-- Pairs of one kind are an even number of them. -/
theorem inPairs_self_iff {text : List α} :
    InPairs p p text ↔ Even text.length ∧ ∀ a ∈ text, p a := by
  fun_induction InPairs p p text with
  | case1 => simp
  | case2 a b rest ih => simp [ih, Nat.even_add_one, and_left_comm]
  | case3 a => simp

end Pairs

/-- The function of bytes is that of characters, and has values for ASCII only. -/
structure OnAscii (onBytes : UInt8 → Option Nat) (onChars : Char → Option Nat) : Prop where
  byte : ∀ byte v, onBytes byte = some v → byte.toNat < 128
  char : ∀ c v, onChars c = some v → c.toNat < 128
  same : ∀ c : Char, c.toNat < 128 → onBytes c.toUInt8 = onChars c

theorem OnAscii.onBytes_eq_some {onBytes : UInt8 → Option Nat} {onChars : Char → Option Nat}
    (ascii : OnAscii onBytes onChars) {c : Char} {v : Nat} (read : onChars c = some v) :
    onBytes c.toUInt8 = some v :=
  (ascii.same c (ascii.char c v read)).trans read

/-- **Pairs of ASCII symbols may be read from the bytes.** -/
theorem readPairs_utf8 {high low : UInt8 → Option Nat} {high' low' : Char → Option Nat}
    (first : OnAscii high high') (second : OnAscii low low') {text : List Char}
    {bytes : List UInt8} : readPairs high low (Utf8.utf8 text) = some bytes ↔
      readPairs high' low' text = some bytes := by
  constructor
  · intro read
    induction bytes generalizing text with
    | nil =>
        have empty := length_of_readPairs read
        rw [List.length_nil, Nat.mul_zero, List.length_eq_zero_iff, Utf8.utf8_eq_nil_iff] at empty
        rw [empty]
        rfl
    | cons byte bytes ih =>
        match encoded : Utf8.utf8 text with
        | [] =>
            rw [encoded] at read
            cases read
        | [a] =>
            rw [encoded] at read
            cases read
        | a :: b :: rest =>
            rw [encoded] at read
            obtain ⟨h, l, later, readA, readB, readRest, same⟩ :=
              readPairs_cons_eq_some_iff.mp read
            obtain ⟨c, others, rfl, narrow, rfl, later'⟩ :=
              Utf8.exists_cons_of_utf8_eq_cons encoded (first.byte a h readA)
            obtain ⟨d, others, rfl, narrow', rfl, rfl⟩ :=
              Utf8.exists_cons_of_utf8_eq_cons later' (second.byte b l readB)
            obtain ⟨-, rfl⟩ := List.cons.inj same
            exact readPairs_cons_eq_some_iff.mpr ⟨h, l, _, (first.same c narrow).symm.trans readA,
              (second.same d narrow').symm.trans readB, ih readRest, same⟩
  · intro read
    fun_induction readPairs high' low' text generalizing bytes with
    | case1 => exact read
    | case2 c d rest ih =>
        obtain ⟨h, l, later, readC, readD, readRest, same⟩ := readPairs_cons_eq_some_iff.mp read
        rw [Utf8.utf8_cons_ascii (first.char c h readC),
          Utf8.utf8_cons_ascii (second.char d l readD)]
        exact readPairs_cons_eq_some_iff.mpr ⟨h, l, later, first.onBytes_eq_some readC,
          second.onBytes_eq_some readD, ih readRest, same⟩
    | case3 c => cases read

/-! ## Digits -/

theorem ascii_of_value {c : Char} {h : Nat} (digit : value c = some h) : c.toNat < 128 := by
  rw [value] at digit
  split at digit
  · next range => exact Utf8.ascii_of_le range.2 (by decide)
  · split at digit
    · next range => exact Utf8.ascii_of_le range.2 (by decide)
    · split at digit
      · next range => exact Utf8.ascii_of_le range.2 (by decide)
      · cases digit

/-- A digit is one of sixteen, but for its case. -/
theorem toLower_of_value {c : Char} {h : Nat} (digit : value c = some h) :
    h < 16 ∧ c.toLower = Nat.digitChar h := by
  have all : ∀ n < 128, ((value (Char.ofNat n)).all fun h =>
      decide (h < 16 ∧ (Char.ofNat n).toLower = Nat.digitChar h)) = true := by decide
  have here := Utf8.ascii_all (P := fun c => ((value c).all fun h =>
    decide (h < 16 ∧ c.toLower = Nat.digitChar h)) = true) all (ascii_of_value digit)
  rw [digit] at here
  exact of_decide_eq_true here

theorem value_digitChar {h : Nat} (small : h < 16) : value (Nat.digitChar h) = some h := by
  have all : ∀ h < 16, value (Nat.digitChar h) = some h := by decide
  exact all h small

/-- Lower-case hexadecimal digits. -/
def writeHex (bytes : List UInt8) : List Char :=
  bytes.flatMap fun byte => [Nat.digitChar (byte.toNat / 16), Nat.digitChar (byte.toNat % 16)]

/-- **What is written is read again.** -/
theorem readHex_writeHex (bytes : List UInt8) : readHex (writeHex bytes) = some bytes := by
  induction bytes with
  | nil => rfl
  | cons byte bytes ih =>
      have bound := byte.toNat_lt
      refine readPairs_cons_eq_some_iff.mpr ⟨byte.toNat / 16, byte.toNat % 16, bytes,
        value_digitChar (by omega), value_digitChar (by omega), ih, ?_⟩
      rw [Nat.div_add_mod, UInt8.ofNat_toNat]

theorem isDigit_of_mem_writeHex {bytes : List UInt8} {c : Char} (member : c ∈ writeHex bytes) :
    IsDigit c :=
  (inPairs_self_iff.mp (exists_readPairs_iff.mp ⟨bytes, readHex_writeHex bytes⟩)).2 c member

/-- **What is read is what the text says in lower case.** -/
theorem map_toLower_of_readHex {text : List Char} {bytes : List UInt8}
    (read : readHex text = some bytes) : text.map Char.toLower = writeHex bytes := by
  rw [readHex] at read
  fun_induction readPairs value value text generalizing bytes with
  | case1 =>
      cases read
      rfl
  | case2 a b rest ih =>
      obtain ⟨h, l, later, first, second, read', rfl⟩ := readPairs_cons_eq_some_iff.mp read
      obtain ⟨bound, high⟩ := toLower_of_value first
      obtain ⟨bound', low⟩ := toLower_of_value second
      have byte : (UInt8.ofNat (16 * h + l)).toNat = 16 * h + l :=
        UInt8.toNat_ofNat_of_lt' (by rw [UInt8.size]; omega)
      have quotient : (16 * h + l) / 16 = h := by omega
      have remainder : (16 * h + l) % 16 = l := by omega
      rw [List.map_cons, List.map_cons, ih read', high, low, writeHex, writeHex,
        List.flatMap_cons, byte, quotient, remainder]
      rfl
  | case3 a => cases read

end ArkadeEscrow.Hex
