import ArkadeEscrow.Tapscript.Locktime
import ArkadeEscrow.Tapscript.Number

/-!
# Executing a tapscript

The rules of BIP342 for a script-path spend. A script is decoded opcode by opcode: one of
the `OP_SUCCESSx` opcodes makes any spend valid, a push that runs past the end makes it
invalid, and otherwise the script runs on the witness stack and has to leave exactly one
element, a true one. The stack is listed from its top, the order in which a script consumes
it. Signature opcodes pay for each signature from a budget that grows with the witness.

What a valid signature is, and what the opcodes do that are not described here, are parts of
the `Environment`. The lemmas say what one instruction makes of a stack, and `decode_pushes`
and `decode_cons` decode a script that is put together from pieces.
-/

set_option autoImplicit false

namespace ArkadeEscrow.Tapscript

/-- An instruction: push some bytes, or an opcode that is not a push. -/
inductive Instr where
  | push (data : Bytes)
  | op (code : UInt8)

/-! ## Decoding -/

/-- `OP_SUCCESSx`. -/
def isSuccess (code : UInt8) : Bool :=
  code == 80 || code == 98 || (126 ≤ code && code ≤ 129) || (131 ≤ code && code ≤ 134) ||
    (137 ≤ code && code ≤ 138) || (141 ≤ code && code ≤ 142) || (149 ≤ code && code ≤ 153) ||
    (187 ≤ code && code ≤ 254)

/-- Read `count` bytes of data. -/
def take (count : Nat) (bytes : Bytes) : Option (Instr × Bytes) :=
  if count ≤ bytes.length then some (.push (bytes.take count), bytes.drop count) else none

/-- Read a length of `width` bytes, then so many bytes of data. -/
def takePrefixed (width : Nat) (bytes : Bytes) : Option (Instr × Bytes) :=
  if width ≤ bytes.length then take (Number.magnitude (bytes.take width)) (bytes.drop width)
  else none

/-- The instruction that begins with this byte, and what is left after it. -/
def instr (code : UInt8) (bytes : Bytes) : Option (Instr × Bytes) :=
  if code ≤ 75 then take code.toNat bytes
  else if code == 76 then takePrefixed 1 bytes
  else if code == 77 then takePrefixed 2 bytes
  else if code == 78 then takePrefixed 4 bytes
  else if code == 79 then some (.push [0x81], bytes)
  else if 81 ≤ code && code ≤ 96 then some (.push [code - 80], bytes)
  else some (.op code, bytes)

/-- What a script decodes to. -/
inductive Decoded where
  | success
  | malformed
  | script (instrs : List Instr)

def Decoded.cons (i : Instr) : Decoded → Decoded
  | .success => .success
  | .malformed => .malformed
  | .script instrs => .script (i :: instrs)

theorem instr_length {code : UInt8} {bytes rest : Bytes} {i : Instr}
    (read : instr code bytes = some (i, rest)) : rest.length ≤ bytes.length := by
  have take_length {count : Nat} {from' : Bytes} (read : take count from' = some (i, rest)) :
      rest.length ≤ from'.length := by
    rw [take] at read
    split at read
    · cases read
      rw [List.length_drop]
      omega
    · cases read
  have prefixed {width : Nat} (read : takePrefixed width bytes = some (i, rest)) :
      rest.length ≤ bytes.length := by
    rw [takePrefixed] at read
    split at read
    · have shorter := take_length read
      rw [List.length_drop] at shorter
      omega
    · cases read
  rw [instr] at read
  split at read
  · exact take_length read
  split at read
  · exact prefixed read
  split at read
  · exact prefixed read
  split at read
  · exact prefixed read
  split at read
  · cases read
    exact le_refl _
  split at read
  · cases read
    exact le_refl _
  · cases read
    exact le_refl _

/-- Decode a script, opcode by opcode. -/
def decode : Bytes → Decoded
  | [] => .script []
  | code :: bytes =>
      if isSuccess code then .success
      else
        match _read : instr code bytes with
        | some (i, rest) => (decode rest).cons i
        | none => .malformed
termination_by bytes => bytes.length
decreasing_by
  have := instr_length _read
  simp only [List.length_cons]
  omega

theorem decode_nil : decode [] = .script [] := by rw [decode]

theorem decode_cons {code : UInt8} {bytes rest : Bytes} {i : Instr}
    (plain : isSuccess code = false) (read : instr code bytes = some (i, rest)) :
    decode (code :: bytes) = (decode rest).cons i := by
  rw [decode, plain]
  simp only [Bool.false_eq_true, if_false]
  split
  · next found =>
      rw [read] at found
      cases found
      rfl
  · next missing =>
      rw [read] at missing
      cases missing

/-- The bytes push the data, whatever follows them. -/
def Pushes (bytes data : Bytes) : Prop :=
  ∃ code tail, bytes = code :: tail ∧ isSuccess code = false ∧
    ∀ rest, instr code (tail ++ rest) = some (.push data, rest)

theorem decode_pushes {bytes data : Bytes} (pushes : Pushes bytes data) (rest : Bytes) :
    decode (bytes ++ rest) = (decode rest).cons (.push data) := by
  obtain ⟨code, tail, rfl, plain, read⟩ := pushes
  exact decode_cons plain (read rest)

/-! ## Execution -/

/-- The stack, from its top, and what is left of the budget for signatures. -/
structure State where
  stack : List Bytes
  budget : Nat

/-- The spend that a script runs for. -/
structure Environment where
  timing : Timing
  /-- The signature is valid for this spend and the key of 32 bytes. -/
  checkSig : Bytes → Bytes → Bool
  /-- A signature has 64 bytes, and one more for a sighash type other than the default. -/
  checkSig_length : ∀ sig key, checkSig sig key = true → sig.length = 64 ∨ sig.length = 65
  /-- The serialized size of the witness without the stack. -/
  overhead : Nat
  /-- The opcodes that are not described here. -/
  other : UInt8 → State → Option State

def opDrop : UInt8 := 0x75
def opCheckSig : UInt8 := 0xac
def opCheckSigVerify : UInt8 := 0xad
def opCheckSequenceVerify : UInt8 := 0xb2

/-- An element that counts as true: not zero, and not negative zero. -/
def isTrue (element : Bytes) : Bool :=
  element.dropLast.any (fun byte => byte != 0) ||
    element.getLast?.any fun last => last != 0 && last != 0x80

/-- Push an element, within the limits on its size and on the size of the stack. -/
def push (data : Bytes) (s : State) : Option State :=
  if data.length ≤ 520 ∧ s.stack.length < 1000 then some { s with stack := data :: s.stack }
  else none

/-- Check a signature: the result and the budget that is left, or a failure of the script. A
key that has not 32 bytes is of an unknown type, and any signature by it counts as valid. -/
def checkSignature (env : Environment) (sig key : Bytes) (budget : Nat) : Option (Bool × Nat) :=
  if key = [] then none
  else if sig = [] then some (false, budget)
  else if budget < 50 then none
  else if key.length = 32 && !env.checkSig sig key then none
  else some (true, budget - 50)

/-- `OP_CHECKSIG`. -/
def checkSig (env : Environment) (s : State) : Option State :=
  match s.stack with
  | key :: sig :: rest =>
      (checkSignature env sig key s.budget).map fun (valid, budget) =>
        ⟨(if valid then [1] else []) :: rest, budget⟩
  | _ => none

/-- `OP_CHECKSIGVERIFY`. -/
def checkSigVerify (env : Environment) (s : State) : Option State :=
  match s.stack with
  | key :: sig :: rest =>
      match checkSignature env sig key s.budget with
      | some (true, budget) => some ⟨rest, budget⟩
      | _ => none
  | _ => none

/-- `OP_CHECKSEQUENCEVERIFY`. -/
def checkSequenceVerify (env : Environment) (s : State) : Option State :=
  match s.stack with
  | top :: _ =>
      match Number.decode 5 top with
      | some (.ofNat operand) => if Locktime.passes env.timing operand then some s else none
      | _ => none
  | [] => none

/-- `OP_DROP`. -/
def drop (s : State) : Option State :=
  match s.stack with
  | _ :: rest => some { s with stack := rest }
  | [] => none

/-- One instruction. -/
def step (env : Environment) : Instr → State → Option State
  | .push data, s => push data s
  | .op code, s =>
      if code == opCheckSig then checkSig env s
      else if code == opCheckSigVerify then checkSigVerify env s
      else if code == opCheckSequenceVerify then checkSequenceVerify env s
      else if code == opDrop then drop s
      else env.other code s

/-- The instructions one after the other. -/
def run (env : Environment) : List Instr → State → Option State
  | [], s => some s
  | i :: instrs, s => (step env i s).bind (run env instrs)

/-- The serialized size of a witness element, with its length before it. -/
def serializedSize (element : Bytes) : Nat :=
  element.length + if element.length < 253 then 1 else if element.length < 2 ^ 16 then 3
    else if element.length < 2 ^ 32 then 5 else 9

/-- Where the execution starts. -/
def start (env : Environment) (stack : List Bytes) : State :=
  ⟨stack, 50 + env.overhead + (stack.map serializedSize).sum⟩

/-- The witness stack is within the limits on its size and on the size of its elements. -/
def withinLimits (stack : List Bytes) : Bool :=
  stack.length ≤ 1000 && stack.all fun element => element.length ≤ 520

/-- The script has left exactly one element, a true one. -/
def leavesTrue (s : State) : Bool :=
  match s.stack with
  | [element] => isTrue element
  | _ => false

/-- The spend is valid: the script executes successfully on the witness stack. -/
def executes (env : Environment) (script : Bytes) (stack : List Bytes) : Bool :=
  match decode script with
  | .success => true
  | .malformed => false
  | .script instrs =>
      withinLimits stack && (run env instrs (start env stack)).any leavesTrue

/-- The first `count` instructions of the script execute without a failure. -/
def passes (env : Environment) (script : Bytes) (stack : List Bytes) (count : Nat) : Bool :=
  match decode script with
  | .success => true
  | .malformed => false
  | .script instrs =>
      withinLimits stack && (run env (instrs.take count) (start env stack)).isSome

/-- A valid signature pays for its check. -/
theorem Environment.size_of_checkSig (env : Environment) {sig key : Bytes}
    (valid : env.checkSig sig key = true) : 50 ≤ serializedSize sig ∧ sig.length ≤ 520 := by
  have length := env.checkSig_length sig key valid
  refine ⟨?_, by omega⟩
  rw [serializedSize]
  omega

/-! ## What instructions make of a stack -/

/-- The instructions run without a failure, to a state that satisfies `post`. -/
def Runs (env : Environment) (instrs : List Instr) (s : State) (post : State → Prop) : Prop :=
  ∃ s', run env instrs s = some s' ∧ post s'

variable {env : Environment} {instrs : List Instr} {stack : List Bytes} {budget : Nat}
  {post : State → Prop}

theorem executes_iff {script : Bytes} (decoded : decode script = .script instrs) :
    executes env script stack = true ↔ withinLimits stack = true ∧
      Runs env instrs (start env stack) (fun s => leavesTrue s = true) := by
  rw [executes, decoded]
  simp [Runs, Option.any_eq_true]

theorem passes_iff {script : Bytes} (decoded : decode script = .script instrs) {count : Nat} :
    passes env script stack count = true ↔ withinLimits stack = true ∧
      Runs env (instrs.take count) (start env stack) (fun _ => True) := by
  rw [passes, decoded]
  simp [Runs, Option.isSome_iff_exists]

theorem runs_nil {s : State} : Runs env [] s post ↔ post s := by
  constructor
  · intro parts
    rcases parts with ⟨s', ran, holds⟩
    cases ran
    exact holds
  · exact fun holds => ⟨s, rfl, holds⟩

theorem runs_cons {i : Instr} {s : State} :
    Runs env (i :: instrs) s post ↔ ∃ s', step env i s = some s' ∧ Runs env instrs s' post := by
  constructor
  · intro parts
    rcases parts with ⟨s', ran, holds⟩
    obtain ⟨middle, first, rest⟩ := Option.bind_eq_some_iff.mp ran
    exact ⟨middle, first, s', rest, holds⟩
  · intro parts
    rcases parts with ⟨middle, first, s', rest, holds⟩
    exact ⟨s', Option.bind_eq_some_iff.mpr ⟨middle, first, rest⟩, holds⟩

theorem runs_push {data : Bytes} (short : data.length ≤ 520) :
    Runs env (.push data :: instrs) ⟨stack, budget⟩ post ↔
      stack.length < 1000 ∧ Runs env instrs ⟨data :: stack, budget⟩ post := by
  rw [runs_cons]
  by_cases room : stack.length < 1000
  · simp [step, push, short, room]
  · simp [step, push, room]

/-- With a key of 32 bytes, a signature check succeeds for a valid signature that the budget
pays for. -/
theorem checkSignature_true_iff {sig key : Bytes} (length : key.length = 32) {left : Nat} :
    checkSignature env sig key budget = some (true, left) ↔
      env.checkSig sig key = true ∧ 50 ≤ budget ∧ left = budget - 50 := by
  have not_empty : key ≠ [] := by
    rintro rfl
    cases length
  rw [checkSignature, if_neg not_empty]
  constructor
  · intro checked
    split at checked
    · cases checked
    split at checked
    · cases checked
    split at checked
    · cases checked
    · next paid valid =>
        simp only [length, decide_true, Bool.true_and, Bool.not_eq_true', Bool.not_eq_false]
          at valid
        cases checked
        exact ⟨valid, by omega, rfl⟩
  · intro parts
    rcases parts with ⟨valid, paid, rfl⟩
    have signed : sig ≠ [] := by
      rintro rfl
      rcases env.checkSig_length _ _ valid with empty | empty <;> cases empty
    have affordable : ¬ budget < 50 := by omega
    rw [if_neg signed, if_neg affordable]
    simp [valid]

theorem runs_checkSigVerify {key : Bytes} (length : key.length = 32) :
    Runs env (.op opCheckSigVerify :: instrs) ⟨key :: stack, budget⟩ post ↔
      ∃ sig rest, stack = sig :: rest ∧ env.checkSig sig key = true ∧ 50 ≤ budget ∧
        Runs env instrs ⟨rest, budget - 50⟩ post := by
  rw [runs_cons]
  cases stack with
  | nil =>
      constructor
      · rintro ⟨_, ⟨⟩, _⟩
      · rintro ⟨_, _, ⟨⟩, _⟩
  | cons sig rest =>
      have stepped : step env (.op opCheckSigVerify) ⟨key :: sig :: rest, budget⟩ =
          match checkSignature env sig key budget with
          | some (true, left) => some ⟨rest, left⟩
          | _ => none := rfl
      rw [stepped]
      constructor
      · intro parts
        rcases parts with ⟨s', checked, ran⟩
        split at checked
        · next left accepted =>
            obtain ⟨valid, paid, rfl⟩ := (checkSignature_true_iff length).mp accepted
            cases checked
            exact ⟨sig, rest, rfl, valid, paid, ran⟩
        · cases checked
      · rintro ⟨_, _, ⟨⟩, valid, paid, ran⟩
        rw [(checkSignature_true_iff length).mpr ⟨valid, paid, rfl⟩]
        exact ⟨_, rfl, ran⟩

/-- The last check leaves one true element when it consumes the last element of the stack. -/
theorem runs_last_checkSig {key : Bytes} (length : key.length = 32) :
    Runs env [.op opCheckSig] ⟨key :: stack, budget⟩ (fun s => leavesTrue s = true) ↔
      ∃ sig, stack = [sig] ∧ env.checkSig sig key = true ∧ 50 ≤ budget := by
  rw [runs_cons]
  cases stack with
  | nil =>
      constructor
      · rintro ⟨_, ⟨⟩, _⟩
      · rintro ⟨_, ⟨⟩, _⟩
  | cons sig rest =>
      have stepped : step env (.op opCheckSig) ⟨key :: sig :: rest, budget⟩ =
          (checkSignature env sig key budget).map fun (valid, left) =>
            ⟨(if valid then [1] else []) :: rest, left⟩ := rfl
      rw [stepped]
      simp only [runs_nil, Option.map_eq_some_iff]
      constructor
      · intro parts
        rcases parts with ⟨_, ⟨⟨valid, left⟩, checked, rfl⟩, clean⟩
        cases rest with
        | cons _ _ => cases clean
        | nil =>
            cases valid with
            | false => cases clean
            | true =>
                obtain ⟨valid, paid, _⟩ := (checkSignature_true_iff length).mp checked
                exact ⟨sig, rfl, valid, paid⟩
      · rintro ⟨_, ⟨⟩, valid, paid⟩
        exact ⟨_, ⟨_, (checkSignature_true_iff length).mpr ⟨valid, paid, rfl⟩, rfl⟩, rfl⟩

/-- A push of a key and a check of its signature. -/
theorem runs_verify {key : Bytes} (length : key.length = 32) :
    Runs env (.push key :: .op opCheckSigVerify :: instrs) ⟨stack, budget⟩ post ↔
      stack.length < 1000 ∧ ∃ sig rest, stack = sig :: rest ∧ env.checkSig sig key = true ∧
        50 ≤ budget ∧ Runs env instrs ⟨rest, budget - 50⟩ post := by
  rw [runs_push (by omega), runs_checkSigVerify length]

/-- A relative lock-time of at most 32 bits is read back from the stack and checked. -/
theorem runs_checkSequenceVerify {operand : Nat} (bound : operand < 2 ^ 32) :
    Runs env (.op opCheckSequenceVerify :: instrs) ⟨Number.encode operand :: stack, budget⟩ post ↔
      Locktime.passes env.timing operand = true ∧
        Runs env instrs ⟨Number.encode operand :: stack, budget⟩ post := by
  have read : Number.decode (4 + 1) (Number.encode operand) = some (.ofNat operand) :=
    Number.decode_encode (by simpa using bound)
  have stepped : step env (.op opCheckSequenceVerify) ⟨Number.encode operand :: stack, budget⟩ =
      match Number.decode 5 (Number.encode operand) with
      | some (.ofNat n) => if Locktime.passes env.timing n then
          some ⟨Number.encode operand :: stack, budget⟩ else none
      | _ => none := rfl
  rw [runs_cons, stepped, read]
  by_cases pass : Locktime.passes env.timing operand = true
  · simp [pass]
  · simp [pass]

theorem runs_drop {top : Bytes} :
    Runs env (.op opDrop :: instrs) ⟨top :: stack, budget⟩ post ↔
      Runs env instrs ⟨stack, budget⟩ post := by
  rw [runs_cons]
  constructor
  · rintro ⟨_, ⟨⟩, ran⟩
    exact ran
  · exact fun ran => ⟨_, rfl, ran⟩

end ArkadeEscrow.Tapscript
