import ArkadeEscrow.Data.Results
import ArkadeEscrow.Ruby.Keys
import ArkadeEscrow.SpendStore

/-!
# Which strings are keys

`hexTo32Bytes` never panics (`hexTo32Bytes_ne_none`), and the text that it accepts, after the
prefix, is 32 pairs of a digit or a plus sign and a digit (`hexTo32Bytes_eq_ok_iff`). So it is
right on every string but those with a plus sign in such a pair (`readsKey_iff`), which it
reads as a zero (`readHex_unsign`).
-/

set_option autoImplicit false

namespace ArkadeEscrow
namespace Ruby

/-! ## One pair -/

/-- The value of the first byte of a pair. -/
def leadingByte (byte : UInt8) : Option Nat :=
  if byte = plusSign then some 0 else toDigit byte 16

/-- The value of the first symbol of a pair. -/
def leading (c : Char) : Option Nat := if c = '+' then some 0 else Hex.value c

theorem toDigit_bounds {byte : UInt8} {digit : Nat} (read : toDigit byte 16 = some digit) :
    digit < 16 ∧ byte.toNat < 128 := by
  obtain ⟨read, small⟩ := Option.filter_eq_some_iff.mp read
  refine ⟨by simpa using small, ?_⟩
  simp only [UInt8.le_iff_toNat_le] at read
  split at read
  · next range => exact Nat.lt_of_le_of_lt range.2 (by decide)
  · split at read
    · next range => exact Nat.lt_of_le_of_lt range.2 (by decide)
    · split at read
      · next range => exact Nat.lt_of_le_of_lt range.2 (by decide)
      · cases read

theorem leadingByte_bounds {byte : UInt8} {digit : Nat} (read : leadingByte byte = some digit) :
    digit < 16 ∧ byte.toNat < 128 := by
  rw [leadingByte] at read
  split at read
  · next sign =>
      cases read
      rw [sign]
      decide
  · exact toDigit_bounds read

theorem toDigit_toUInt8 {c : Char} (ascii : c.toNat < 128) :
    toDigit c.toUInt8 16 = Hex.value c := by
  have all : ∀ n < 128, toDigit (Char.ofNat n).toUInt8 16 = Hex.value (Char.ofNat n) := by decide
  exact Utf8.ascii_all (P := fun c => toDigit c.toUInt8 16 = Hex.value c) all ascii

theorem leadingByte_toUInt8 {c : Char} (ascii : c.toNat < 128) :
    leadingByte c.toUInt8 = leading c := by
  have all : ∀ n < 128, leadingByte (Char.ofNat n).toUInt8 = leading (Char.ofNat n) := by decide
  exact Utf8.ascii_all (P := fun c => leadingByte c.toUInt8 = leading c) all ascii

theorem onAscii_digit : Hex.OnAscii (fun byte => toDigit byte 16) Hex.value where
  byte _ _ read := (toDigit_bounds read).2
  char _ _ read := Hex.ascii_of_value read
  same _ ascii := toDigit_toUInt8 ascii

theorem onAscii_leading : Hex.OnAscii leadingByte leading where
  byte _ _ read := (leadingByte_bounds read).2
  char c _ read := by
    rw [leading] at read
    split at read
    · next sign =>
        rw [sign]
        decide
    · exact Hex.ascii_of_value read
  same _ ascii := leadingByte_toUInt8 ascii

theorem addDigits_cons_eq_ok_iff {radix result : Nat} {c : UInt8} {digits : List UInt8}
    {byte : UInt8} : addDigits radix (c :: digits) result = .ok byte ↔
      ∃ digit, toDigit c radix = some digit ∧ result * radix + digit < 256 ∧
        addDigits radix digits (result * radix + digit) = .ok byte := by
  rw [addDigits]
  cases toDigit c radix with
  | none => simp
  | some digit => simp [ite_eq_iff]

/-- **A pair is a number with an optional sign.** -/
theorem fromStrRadix_pair {a b byte : UInt8} :
    fromStrRadix [a, b] 16 = .ok byte ↔ ∃ h l, leadingByte a = some h ∧
      toDigit b 16 = some l ∧ byte = UInt8.ofNat (16 * h + l) := by
  rw [fromStrRadix, if_neg (by simp), leadingByte]
  split
  · rw [addDigits_cons_eq_ok_iff]
    constructor
    · rintro ⟨l, second, _, last⟩
      obtain rfl := Except.ok.inj last
      exact ⟨0, l, rfl, second, by simp⟩
    · rintro ⟨_, l, ⟨⟩, second, rfl⟩
      have bound := (toDigit_bounds second).1
      exact ⟨l, second, by omega, by simp [addDigits]⟩
  · simp only [addDigits_cons_eq_ok_iff]
    constructor
    · rintro ⟨h, first, _, l, second, _, last⟩
      obtain rfl := Except.ok.inj last
      exact ⟨h, l, first, second, by simp [Nat.mul_comm]⟩
    · rintro ⟨h, l, first, second, rfl⟩
      have bound := (toDigit_bounds first).1
      have bound' := (toDigit_bounds second).1
      exact ⟨h, first, by omega, l, second, by omega, by simp [addDigits, Nat.mul_comm]⟩

theorem fromUtf8_eq_ok {bytes str : List UInt8} (valid : fromUtf8 bytes = .ok str) :
    str = bytes := by
  rw [fromUtf8] at valid
  split at valid
  · exact (Except.ok.inj valid).symm
  · cases valid

theorem runUtf8Validation_ascii {first : UInt8} (ascii : first.toNat < 128) (index : Nat)
    (rest : List UInt8) :
    runUtf8Validation index (first :: rest) = runUtf8Validation (index + 1) rest := by
  have narrow : utf8CharWidth first = 1 := if_pos (UInt8.lt_iff_toNat_lt.mpr ascii)
  rw [runUtf8Validation.eq_def]
  simp only [narrow]

/-- ASCII is valid. -/
theorem fromUtf8_ascii {a b : UInt8} (ascii : a.toNat < 128) (ascii' : b.toNat < 128) :
    fromUtf8 [a, b] = .ok [a, b] := by
  rw [fromUtf8, runUtf8Validation_ascii ascii, runUtf8Validation_ascii ascii']
  rfl

theorem parseChunk_pair {a b byte : UInt8} :
    parseChunk [a, b] = .ok byte ↔ ∃ h l, leadingByte a = some h ∧ toDigit b 16 = some l ∧
      byte = UInt8.ofNat (16 * h + l) := by
  rw [← fromStrRadix_pair]
  constructor
  · intro parsed
    obtain ⟨str, valid, parsed⟩ := Results.bind_eq_ok_iff.mp parsed
    rw [fromUtf8_eq_ok (ofDisplay_eq_ok_iff.mp valid)] at parsed
    exact ofDisplay_eq_ok_iff.mp parsed
  · intro parsed
    obtain ⟨h, l, first, second, _⟩ := fromStrRadix_pair.mp parsed
    have valid := fromUtf8_ascii (leadingByte_bounds first).2 (toDigit_bounds second).2
    exact Results.bind_eq_ok_iff.mpr ⟨[a, b], ofDisplay_eq_ok_iff.mpr valid,
      ofDisplay_eq_ok_iff.mpr parsed⟩

/-- **The chunks of an even number of bytes** are parsed as pairs. -/
theorem mapM_parseChunk_eq_ok_iff {bytes out : List UInt8} (even : Even bytes.length) :
    (chunks2 bytes).mapM parseChunk = .ok out ↔
      Hex.readPairs leadingByte (fun byte => toDigit byte 16) bytes = some out := by
  rw [Results.mapM_eq_ok_iff]
  fun_induction chunks2 bytes generalizing out with
  | case1 a b rest ih =>
      have even' : Even rest.length := by simpa [Nat.even_add_one] using even
      rw [List.forall₂_cons_left_iff, Hex.readPairs_cons_eq_some_iff]
      constructor
      · rintro ⟨byte, later, first, others, rfl⟩
        obtain ⟨h, l, high, low, rfl⟩ := parseChunk_pair.mp first
        exact ⟨h, l, later, high, low, (ih even').mp others, rfl⟩
      · rintro ⟨h, l, later, high, low, read, rfl⟩
        exact ⟨_, later, parseChunk_pair.mpr ⟨h, l, high, low, rfl⟩, (ih even').mpr read, rfl⟩
  | case2 a => simp at even
  | case3 => simp [Hex.readPairs, eq_comm]

theorem length_chunks2 {bytes : List UInt8} (even : Even bytes.length) :
    2 * (chunks2 bytes).length = bytes.length := by
  fun_induction chunks2 bytes with
  | case1 a b rest ih =>
      have even' : Even rest.length := by simpa [Nat.even_add_one] using even
      simp only [List.length_cons, ← ih even']
      omega
  | case2 a => simp at even
  | case3 => rfl

/-! ## The loop -/

/-- One turn of the loop. -/
theorem writeChunk_bind {chunk : List UInt8} {i : Nat} {out : Vector UInt8 32} (bound : i < 32)
    (next : Vector UInt8 32 → Checked (Vector UInt8 32)) :
    (writeChunk out (chunk, i) >>= next) =
      (liftM (parseChunk chunk) : Checked UInt8) >>= fun byte => next (out.set i byte bound) := by
  have stored (byte : UInt8) : setAt out i byte = some (out.set i byte bound) := dif_pos bound
  rw [writeChunk, bind_assoc]
  simp only [stored]
  rfl

theorem splice_set {α : Type} {xs ys : List α} {i n : Nat} {x : α} (bound : i < xs.length) :
    (xs.set i x).take (i + 1) ++ ys ++ (xs.set i x).drop (i + 1 + n) =
      xs.take i ++ x :: ys ++ xs.drop (i + (n + 1)) := by
  have taken : (xs.set i x).take (i + 1) = xs.take i ++ [x] := by
    rw [List.take_add_one, List.take_set_of_le le_rfl, List.getElem?_set_self bound]
    rfl
  have dropped : (xs.set i x).drop (i + 1 + n) = xs.drop (i + (n + 1)) := by
    rw [List.drop_set_of_lt (by omega), Nat.add_assoc, Nat.add_comm 1 n]
  rw [taken, dropped, List.append_assoc (xs.take i), List.singleton_append]

/-- **The loop writes the bytes of the chunks one after the other.** -/
theorem foldlM_writeChunk_eq_ok_iff {chunks : List (List UInt8)} {start : Nat}
    {out out' : Vector UInt8 32}
    (room : start + chunks.length ≤ 32) :
    (chunks.zipIdx start).foldlM writeChunk out = some (.ok out') ↔ ∃ bytes,
      chunks.mapM parseChunk = .ok bytes ∧
        out'.toList =
          out.toList.take start ++ bytes ++ out.toList.drop (start + chunks.length) := by
  induction chunks generalizing start out with
  | nil =>
      constructor
      · rintro ⟨⟩
        exact ⟨[], rfl, by simp⟩
      · rintro ⟨bytes, parsed, same⟩
        obtain rfl : [] = bytes := Except.ok.inj parsed
        rw [List.append_nil, List.length_nil, Nat.add_zero, List.take_append_drop] at same
        rw [Vector.toList_inj.mp same]
        rfl
  | cons chunk chunks ih =>
      rw [List.length_cons] at room
      have bound : start < 32 := by omega
      have inside : start < out.toList.length := by rwa [Vector.length_toList]
      have later : start + 1 + chunks.length ≤ 32 := by omega
      rw [List.zipIdx_cons, List.foldlM_cons, writeChunk_bind bound, Checked.bind_eq_ok_iff,
        List.mapM_cons]
      constructor
      · rintro ⟨byte, parsed, filled⟩
        obtain ⟨bytes, others, same⟩ := (ih later).mp filled
        have parsed := Checked.liftExcept_eq_ok_iff.mp parsed
        refine ⟨byte :: bytes, ?_, ?_⟩
        · rw [parsed, others]
          rfl
        · rw [same, Vector.toList_set, splice_set inside, List.length_cons]
      · rintro ⟨bytes, parsed, same⟩
        obtain ⟨byte, first, parsed⟩ := Results.bind_eq_ok_iff.mp parsed
        obtain ⟨bytes, others, parsed⟩ := Results.bind_eq_ok_iff.mp parsed
        obtain rfl := Except.ok.inj parsed
        refine ⟨byte, Checked.liftExcept_eq_ok_iff.mpr first, (ih later).mpr ⟨bytes, others, ?_⟩⟩
        rw [same, Vector.toList_set, splice_set inside, List.length_cons]

/-- The loop stays inside. -/
theorem foldlM_writeChunk_ne_none {chunks : List (List UInt8)} {start : Nat} {out : Vector UInt8 32}
    (room : start + chunks.length ≤ 32) : (chunks.zipIdx start).foldlM writeChunk out ≠ none := by
  induction chunks generalizing start out with
  | nil => exact nofun
  | cons chunk chunks ih =>
      rw [List.length_cons] at room
      have bound : start < 32 := by omega
      rw [List.zipIdx_cons, List.foldlM_cons, writeChunk_bind bound]
      intro panics
      rcases Checked.bind_eq_none_iff.mp panics with failed | ⟨byte, _, panics⟩
      · exact Checked.liftExcept_ne_none _ failed
      · exact ih (by omega) panics

/-! ## What is accepted -/

/-- The text of a key: the string without the prefix, if it has one. -/
def keyText (hex : String) : List Char :=
  match hex.toList with
  | '0' :: 'x' :: text => text
  | text => text

theorem toList_stripPrefix (hex : String) :
    ((stripPrefix hex "0x").getD hex).toList = keyText hex := by
  have pre : "0x".toList = ['0', 'x'] := rfl
  rw [stripPrefix, keyText, pre]
  split
  · next starts =>
      obtain ⟨text, chars⟩ := starts
      rw [← chars, Option.getD_some, String.toList_ofList]
      rfl
  · next other =>
      rw [Option.getD_none]
      split
      · next text chars => exact absurd (chars ▸ List.prefix_append ['0', 'x'] text) other
      · rfl

/-- 64 bytes are 32 chunks of two. -/
theorem chunks_of_full {hex : String} (full : hex.utf8ByteSize = 64) :
    Even (asBytes hex).length ∧ (chunks2 (asBytes hex)).length = 32 := by
  have size : (asBytes hex).length = 64 := full
  have even : Even (asBytes hex).length := by
    rw [size]
    decide
  have count := length_chunks2 even
  exact ⟨even, by omega⟩

/-- The loop over a string of 64 bytes. -/
theorem foldlM_writeChunk_asBytes {hex : String} (full : hex.utf8ByteSize = 64)
    {out : Vector UInt8 32} :
    (chunks2 (asBytes hex)).zipIdx.foldlM writeChunk (Vector.replicate 32 0) = some (.ok out) ↔
      Hex.readPairs leading Hex.value hex.toList = some out.toList := by
  obtain ⟨even, count⟩ := chunks_of_full full
  rw [← Hex.readPairs_utf8 onAscii_leading onAscii_digit, ← Utf8.utf8_eq_flatMap, ← asBytes,
    ← mapM_parseChunk_eq_ok_iff even, foldlM_writeChunk_eq_ok_iff (by omega), count]
  simp [eq_comm]

/-- **What is accepted**: pairs of a digit or a plus sign and a digit, and their bytes. -/
theorem hexTo32Bytes_eq_ok_iff {hex : String} {out : Vector UInt8 32} :
    hexTo32Bytes hex = some (.ok out) ↔
      Hex.readPairs leading Hex.value (keyText hex) = some out.toList := by
  rw [← toList_stripPrefix, hexTo32Bytes, Checked.bind_eq_ok_iff]
  generalize (stripPrefix hex "0x").getD hex = hex
  constructor
  · rintro ⟨⟨⟩, full, filled⟩
    have full := ensure_eq_ok_iff.mp (Checked.liftExcept_eq_ok_iff.mp full)
    exact (foldlM_writeChunk_asBytes (beq_iff_eq.mp full)).mp filled
  · intro read
    -- the symbols are ASCII, so there are as many bytes
    have bytes := (Hex.readPairs_utf8 onAscii_leading onAscii_digit).mpr read
    rw [← Utf8.utf8_eq_flatMap] at bytes
    have full : hex.utf8ByteSize = 64 := by
      have length := Hex.length_of_readPairs bytes
      rwa [Vector.length_toList] at length
    refine ⟨(), Checked.liftExcept_eq_ok_iff.mpr (ensure_eq_ok_iff.mpr ?_), ?_⟩
    · exact beq_iff_eq.mpr full
    · exact (foldlM_writeChunk_asBytes full).mpr read

/-- **No string panics.** -/
theorem hexTo32Bytes_ne_none (hex : String) : hexTo32Bytes hex ≠ none := by
  rw [hexTo32Bytes]
  generalize (stripPrefix hex "0x").getD hex = hex
  intro panics
  rcases Checked.bind_eq_none_iff.mp panics with failed | ⟨⟨⟩, full, panics⟩
  · exact Checked.liftExcept_ne_none _ failed
  · have full := ensure_eq_ok_iff.mp (Checked.liftExcept_eq_ok_iff.mp full)
    have count := (chunks_of_full (beq_iff_eq.mp full)).2
    exact foldlM_writeChunk_ne_none (by omega) panics

/-! ## The requirement -/

/-- A key: 64 hexadecimal digits. -/
def IsKey (hex : String) : Prop :=
  (keyText hex).length = 64 ∧ ∀ c ∈ keyText hex, Hex.IsDigit c

/-- The string is parsed as a key should be. -/
structure ReadsKey (hex : String) : Prop where
  total : hexTo32Bytes hex ≠ none
  accepted : (∃ out, hexTo32Bytes hex = some (.ok out)) ↔ IsKey hex
  denoted : ∀ out, hexTo32Bytes hex = some (.ok out) →
    Hex.readHex (keyText hex) = some out.toList
  distinct : ∀ hex' out, IsKey hex' → hexTo32Bytes hex = some (.ok out) →
    hexTo32Bytes hex' = some (.ok out) →
      (keyText hex).map Char.toLower = (keyText hex').map Char.toLower
  again : ∀ out, hexTo32Bytes hex = some (.ok out) →
    hexTo32Bytes (toLowerHex out.toList) = some (.ok out)

/-- 64 symbols of which each odd one is a digit, and each even one a digit or, at least once,
a plus sign. -/
def Signed (hex : String) : Prop :=
  (keyText hex).length = 64 ∧ '+' ∈ keyText hex ∧
    Hex.InPairs (fun c => c = '+' ∨ Hex.IsDigit c) Hex.IsDigit (keyText hex)

theorem isSome_leading_iff {c : Char} : (leading c).isSome ↔ c = '+' ∨ Hex.IsDigit c := by
  rw [leading]
  split
  · next sign => simp [sign]
  · next other => simp [other, Hex.IsDigit]

/-- What is accepted, as a kind of text. -/
theorem exists_hexTo32Bytes_iff {hex : String} :
    (∃ out, hexTo32Bytes hex = some (.ok out)) ↔ (keyText hex).length = 64 ∧
      Hex.InPairs (fun c => c = '+' ∨ Hex.IsDigit c) Hex.IsDigit (keyText hex) := by
  have pairs := @Hex.exists_readPairs_iff Char leading Hex.value (keyText hex)
  simp only [isSome_leading_iff] at pairs
  constructor
  · rintro ⟨out, read⟩
    have read := hexTo32Bytes_eq_ok_iff.mp read
    refine ⟨?_, pairs.mp ⟨_, read⟩⟩
    rw [Hex.length_of_readPairs read, Vector.length_toList]
  · rintro ⟨length, inPairs⟩
    obtain ⟨bytes, read⟩ := pairs.mpr inPairs
    have size : bytes.toArray.size = 32 := by
      have count := Hex.length_of_readPairs read
      rw [length] at count
      rw [List.size_toArray]
      omega
    exact ⟨⟨bytes.toArray, size⟩, hexTo32Bytes_eq_ok_iff.mpr read⟩

/-- A key has no plus sign, and all else that is accepted has one. -/
theorem isKey_iff {hex : String} :
    IsKey hex ↔ (∃ out, hexTo32Bytes hex = some (.ok out)) ∧ '+' ∉ keyText hex := by
  rw [exists_hexTo32Bytes_iff]
  constructor
  · rintro ⟨length, digits⟩
    have even : Even (keyText hex).length := by
      rw [length]
      decide
    have pairs := Hex.inPairs_self_iff.mpr ⟨even, digits⟩
    refine ⟨⟨length, pairs.imp (fun c _ digit => .inr digit) fun c _ digit => digit⟩, ?_⟩
    intro sign
    exact absurd (digits '+' sign) (by decide)
  · rintro ⟨⟨length, pairs⟩, unsigned⟩
    refine ⟨length, (Hex.inPairs_self_iff.mp (pairs.imp ?_ fun c _ digit => digit)).2⟩
    intro c member symbol
    exact symbol.resolve_left fun sign => unsigned (sign ▸ member)

theorem signed_iff {hex : String} :
    Signed hex ↔ (∃ out, hexTo32Bytes hex = some (.ok out)) ∧ '+' ∈ keyText hex := by
  rw [exists_hexTo32Bytes_iff, Signed, and_assoc, and_comm (a := '+' ∈ keyText hex)]

/-- Without a plus sign, the digits are read. -/
theorem readHex_eq {hex : String} {out : Vector UInt8 32} (unsigned : '+' ∉ keyText hex) :
    Hex.readHex (keyText hex) = some out.toList ↔ hexTo32Bytes hex = some (.ok out) := by
  have plain : ∀ c ∈ keyText hex, leading c = Hex.value c := by
    intro c member
    rw [leading, if_neg]
    rintro rfl
    exact unsigned member
  rw [hexTo32Bytes_eq_ok_iff, Hex.readHex, Hex.readPairs_congr plain]

/-- A text is the bytes that it is parsed as, but for the case of its letters. -/
theorem map_toLower_keyText {hex : String} {out : Vector UInt8 32}
    (unsigned : '+' ∉ keyText hex) (parsed : hexTo32Bytes hex = some (.ok out)) :
    (keyText hex).map Char.toLower = Hex.writeHex out.toList :=
  Hex.map_toLower_of_readHex ((readHex_eq unsigned).mpr parsed)

/-- Digits have no prefix. -/
theorem keyText_ofList {text : List Char} (digits : ∀ c ∈ text, Hex.IsDigit c) :
    keyText (String.ofList text) = text := by
  rw [keyText, String.toList_ofList]
  split
  · next text prefixed => exact absurd (digits 'x' (by simp)) (by decide)
  · rfl

/-- Digits are parsed as what they denote. -/
theorem hexTo32Bytes_ofList {text : List Char} {out : Vector UInt8 32}
    (digits : ∀ c ∈ text, Hex.IsDigit c) :
    hexTo32Bytes (String.ofList text) = some (.ok out) ↔ Hex.readHex text = some out.toList := by
  have whole := keyText_ofList digits
  rw [← readHex_eq, whole]
  intro sign
  rw [whole] at sign
  exact absurd (digits '+' sign) (by decide)

/-- **What is encoded is parsed again.** -/
theorem hexTo32Bytes_toLowerHex (out : Vector UInt8 32) :
    hexTo32Bytes (toLowerHex out.toList) = some (.ok out) := by
  have digits : ∀ c ∈ Hex.writeHex out.toList, Hex.IsDigit c :=
    fun c member => Hex.isDigit_of_mem_writeHex member
  exact (hexTo32Bytes_ofList digits).mpr (Hex.readHex_writeHex out.toList)

/-- A zero in place of a plus sign. -/
def unsign (c : Char) : Char := if c = '+' then '0' else c

/-- **A plus sign is read as a zero.** -/
theorem readHex_unsign {hex : String} {out : Vector UInt8 32}
    (parsed : hexTo32Bytes hex = some (.ok out)) :
    Hex.readHex ((keyText hex).map unsign) = some out.toList := by
  have first (c : Char) (h : Nat) (read : leading c = some h) :
      Hex.value (unsign c) = some h := by
    rw [leading] at read
    rw [unsign]
    split at read
    · next sign =>
        cases read
        rw [if_pos sign]
        decide
    · next other => rwa [if_neg other]
  have second (c : Char) (l : Nat) (read : Hex.value c = some l) :
      Hex.value (unsign c) = some l := by
    rw [unsign, if_neg, read]
    rintro rfl
    cases read
  exact Hex.readPairs_map first second (hexTo32Bytes_eq_ok_iff.mp parsed)

/-- **A string is parsed as a key should be, unless it has a plus sign in a pair.** -/
theorem readsKey_iff (hex : String) : ReadsKey hex ↔ ¬Signed hex := by
  constructor
  · intro reads signed
    obtain ⟨accepted, sign⟩ := signed_iff.mp signed
    exact (isKey_iff.mp (reads.accepted.mp accepted)).2 sign
  · intro plain
    have unsigned {out : Vector UInt8 32} (parsed : hexTo32Bytes hex = some (.ok out)) :
        '+' ∉ keyText hex := fun sign => plain (signed_iff.mpr ⟨⟨out, parsed⟩, sign⟩)
    constructor
    case total => exact hexTo32Bytes_ne_none hex
    case accepted =>
      constructor
      · rintro ⟨out, parsed⟩
        exact isKey_iff.mpr ⟨⟨out, parsed⟩, unsigned parsed⟩
      · exact fun key => (isKey_iff.mp key).1
    case denoted => exact fun out parsed => (readHex_eq (unsigned parsed)).mpr parsed
    case distinct =>
      intro hex' out key' parsed parsed'
      rw [map_toLower_keyText (unsigned parsed) parsed,
        map_toLower_keyText (isKey_iff.mp key').2 parsed']
    case again => exact fun out _ => hexTo32Bytes_toLowerHex out

/-- 32 signed digits are accepted, as the key that they make with zeros in place of the
signs. -/
theorem not_always_readsKey :
    hexTo32Bytes "+1+1+1+1+1+1+1+1+1+1+1+1+1+1+1+1+1+1+1+1+1+1+1+1+1+1+1+1+1+1+1+1" =
        some (.ok (Vector.replicate 32 1)) ∧
      ¬IsKey "+1+1+1+1+1+1+1+1+1+1+1+1+1+1+1+1+1+1+1+1+1+1+1+1+1+1+1+1+1+1+1+1" ∧
      ¬ReadsKey "+1+1+1+1+1+1+1+1+1+1+1+1+1+1+1+1+1+1+1+1+1+1+1+1+1+1+1+1+1+1+1+1" := by
  have parsed : hexTo32Bytes
      "+1+1+1+1+1+1+1+1+1+1+1+1+1+1+1+1+1+1+1+1+1+1+1+1+1+1+1+1+1+1+1+1" =
        some (.ok (Vector.replicate 32 1)) := hexTo32Bytes_eq_ok_iff.mpr (by decide)
  have other : ¬IsKey
      "+1+1+1+1+1+1+1+1+1+1+1+1+1+1+1+1+1+1+1+1+1+1+1+1+1+1+1+1+1+1+1+1" :=
    fun key => absurd (key.2 '+' (by decide)) (by decide)
  exact ⟨parsed, other, fun reads => other (reads.accepted.mp ⟨_, parsed⟩)⟩

/-! ## Keys -/

section Keys

variable {Key : Type} {fromSlice : List UInt8 → Except String Key}

theorem parseKey_eq_ok_iff {hex : String} {key : Key} :
    parseKey fromSlice hex = some (.ok key) ↔
      ∃ out, hexTo32Bytes hex = some (.ok out) ∧ fromSlice out.toList = .ok key := by
  simp only [parseKey, Checked.bind_eq_ok_iff, Checked.liftExcept_eq_ok_iff, ofDisplay_eq_ok_iff]

theorem parseKey_ne_none (hex : String) : parseKey fromSlice hex ≠ none := by
  intro panics
  rcases Checked.bind_eq_none_iff.mp panics with failed | ⟨out, _, panics⟩
  · exact hexTo32Bytes_ne_none hex failed
  · exact Checked.liftExcept_ne_none _ panics

/-- A public key that is printed is parsed again. -/
theorem parseXonly_toLowerHex {B : BitcoinLib} {key : XOnlyPublicKey}
    (inverse : B.keyFromSlice key.serialize = .ok key) :
    parseXonly B (toLowerHex key.serialize) = some (.ok key) := by
  have size : key.serialize.toArray.size = 32 := by
    rw [List.size_toArray, XOnlyPublicKey.serialize, List.length_ofFn]
  have bytes := hexTo32Bytes_toLowerHex ⟨key.serialize.toArray, size⟩
  exact parseKey_eq_ok_iff.mpr ⟨_, bytes, inverse⟩

end Keys

end Ruby
end ArkadeEscrow
