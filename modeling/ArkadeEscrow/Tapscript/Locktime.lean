import Mathlib.Data.Nat.Bitwise

/-!
# Relative lock-times

The sequence number of an input can demand that the output it spends has reached an age
(BIP68), and a script can demand that the sequence number does (BIP112). Both look at the
same part of the number: a type flag, which chooses between blocks and units of 512 seconds,
and the low 16 bits. `passes_iff` is the comparison in these terms, and
`forall_passes_demands_iff` says when a script's demand is one at all.
-/

set_option autoImplicit false

namespace ArkadeEscrow.Tapscript

/-- What a relative lock-time depends on: the version of the transaction and the sequence
number of the input. -/
structure Timing where
  version : UInt32
  sequence : UInt32

namespace Locktime

/-- The bit that turns the relative lock-time off. -/
def disableFlag : Nat := 2 ^ 31

/-- The bit that chooses units of 512 seconds. -/
def typeFlag : Nat := 2 ^ 22

/-- The number has the flag. -/
def hasFlag (n flag : Nat) : Bool := n / flag % 2 == 1

/-- The low 16 bits: the number of units. -/
def units (n : Nat) : Nat := n % 2 ^ 16

/-- **BIP68**: the units that the input's sequence number demands. -/
def demanded (timing : Timing) : Nat :=
  if timing.version.toNat < 2 || hasFlag timing.sequence.toNat disableFlag then 0
  else units timing.sequence.toNat

/-- **BIP112**: the check of an operand that is not negative. -/
def passes (timing : Timing) (operand : Nat) : Bool :=
  hasFlag operand disableFlag ||
    (2 ≤ timing.version.toNat && !hasFlag timing.sequence.toNat disableFlag &&
      hasFlag operand typeFlag == hasFlag timing.sequence.toNat typeFlag &&
      units operand ≤ units timing.sequence.toNat)

theorem hasFlag_two_pow (n i : Nat) : hasFlag n (2 ^ i) = n.testBit i := by
  rw [hasFlag, Nat.testBit_eq_decide_div_mod_eq]
  rfl

theorem passes_iff {timing : Timing} {operand : Nat}
    (enabled : hasFlag operand disableFlag = false) :
    passes timing operand = true ↔ 2 ≤ timing.version.toNat ∧
      hasFlag timing.sequence.toNat disableFlag = false ∧
      hasFlag operand typeFlag = hasFlag timing.sequence.toNat typeFlag ∧
      units operand ≤ units timing.sequence.toNat := by
  simp [passes, enabled, and_assoc]

/-- An operand that passes demands at least its own units. -/
theorem units_le_demanded {timing : Timing} {operand : Nat}
    (enabled : hasFlag operand disableFlag = false) (pass : passes timing operand = true) :
    units operand ≤ demanded timing := by
  obtain ⟨version, sequence, _, enough⟩ := (passes_iff enabled).mp pass
  have old : ¬ timing.version.toNat < 2 := by omega
  simpa [demanded, sequence, old] using enough

/-- The timing that just satisfies an operand. -/
def exact (operand : UInt32) : Timing := ⟨2, operand⟩

theorem passes_exact {operand : UInt32} (enabled : hasFlag operand.toNat disableFlag = false) :
    passes (exact operand) operand.toNat = true :=
  (passes_iff enabled).mpr ⟨le_refl 2, enabled, rfl, le_refl _⟩

theorem demanded_exact {operand : UInt32} (enabled : hasFlag operand.toNat disableFlag = false) :
    demanded (exact operand) = units operand.toNat := by
  simp [demanded, exact, enabled]

/-- **When an operand demands an age**: exactly when its low 16 bits are not zero. -/
theorem forall_passes_demands_iff {operand : UInt32}
    (enabled : hasFlag operand.toNat disableFlag = false) :
    (∀ timing, passes timing operand.toNat = true → 1 ≤ demanded timing) ↔
      units operand.toNat ≠ 0 := by
  constructor
  · intro demands
    have least := demands _ (passes_exact enabled)
    rw [demanded_exact enabled] at least
    omega
  · intro some timing pass
    have enough := units_le_demanded enabled pass
    omega

end Locktime

end ArkadeEscrow.Tapscript
