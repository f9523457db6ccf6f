import ArkadeEscrow.Bitcoin
import Mathlib.Algebra.BigOperators.Group.List.Basic

/-!
# What a release pays

`planRelease` takes the fees from the escrow amount and leaves the rest to the buyer. Amounts
are 64-bit numbers. The sum of a list of them is added up without a check: it wraps in a
release build and panics in a debug build, and `overflowChecks` says which one it is. Either
way it is the exact sum just when that is below 2^64 (`Amount.sum_exact_iff`), and then a
release is planned just when the escrow has the fees and the dust, with nothing lost
(`planRelease_eq_ok_iff`).
-/

set_option autoImplicit false

namespace ArkadeEscrow

/-- A result or an error. A panic is `none`. -/
abbrev Checked (α : Type) := ExceptT Error Option α

namespace Checked

variable {α β : Type}

theorem bind_eq_ok_iff {x : Checked α} {f : α → Checked β} {b : β} :
    (x >>= f : Checked β) = some (.ok b) ↔ ∃ a, x = some (.ok a) ∧ f a = some (.ok b) := by
  constructor
  · intro ended
    cases x with
    | none => cases ended
    | some r =>
        cases r with
        | error e => cases ended
        | ok a => exact ⟨a, rfl, ended⟩
  · rintro ⟨a, rfl, ended⟩
    exact ended

/-- A computation panics where one of its parts does. -/
theorem bind_eq_none_iff {x : Checked α} {f : α → Checked β} :
    (x >>= f : Checked β) = none ↔ x = none ∨ ∃ a, x = some (.ok a) ∧ f a = none := by
  constructor
  · intro ended
    cases x with
    | none => exact .inl rfl
    | some r =>
        cases r with
        | error e => cases ended
        | ok a => exact .inr ⟨a, rfl, ended⟩
  · rintro (rfl | ⟨a, rfl, ended⟩)
    · rfl
    · exact ended

@[simp] theorem liftOption_eq_ok_iff {x : Option α} {a : α} :
    (liftM x : Checked α) = some (.ok a) ↔ x = some a := by
  cases x with
  | none => exact ⟨nofun, nofun⟩
  | some b =>
      constructor
      · intro same
        cases same
        rfl
      · rintro ⟨⟩
        rfl

@[simp] theorem liftOption_eq_none_iff {x : Option α} :
    (liftM x : Checked α) = none ↔ x = none := by
  cases x with
  | none => exact ⟨fun _ => rfl, fun _ => rfl⟩
  | some b => exact ⟨nofun, nofun⟩

@[simp] theorem liftExcept_eq_ok_iff {r : Except Error α} {a : α} :
    (liftM r : Checked α) = some (.ok a) ↔ r = .ok a := by
  cases r with
  | error e => exact ⟨nofun, nofun⟩
  | ok b =>
      constructor
      · intro same
        cases same
        rfl
      · rintro ⟨⟩
        rfl

theorem liftExcept_ne_none (r : Except Error α) : (liftM r : Checked α) ≠ none := by
  cases r <;> exact nofun

end Checked

/-! ## Adding amounts -/

/-- `u64 + u64`. -/
def Amount.add (overflowChecks : Bool) (a b : Amount) : Option Amount :=
  if overflowChecks && decide (2 ^ 64 ≤ a.sat.toNat + b.sat.toNat) then none
  else some ⟨a.sat + b.sat⟩

/-- `amounts.sum()`. -/
def Amount.sum (overflowChecks : Bool) (amounts : List Amount) : Option Amount :=
  amounts.foldlM (Amount.add overflowChecks) ⟨0⟩

/-- `Amount::checked_sub`. -/
def Amount.checkedSub (a b : Amount) : Option Amount :=
  if b.sat ≤ a.sat then some ⟨a.sat - b.sat⟩ else none

/-- What a list of amounts is worth, as a number without a bound. -/
def worth (amounts : List Amount) : Nat :=
  amounts.foldr (fun amount total => amount.sat.toNat + total) 0

@[simp] theorem worth_nil : worth [] = 0 := rfl

@[simp] theorem worth_cons (amount : Amount) (amounts : List Amount) :
    worth (amount :: amounts) = amount.sat.toNat + worth amounts := rfl

namespace Amount

theorem foldlM_add (overflowChecks : Bool) (amounts : List Amount) (start : Amount) :
    (amounts.foldlM (add overflowChecks) start).map (fun total => total.sat.toNat) =
      if overflowChecks && decide (2 ^ 64 ≤ start.sat.toNat + worth amounts) then none
      else some ((start.sat.toNat + worth amounts) % 2 ^ 64) := by
  induction amounts generalizing start with
  | nil =>
      have bound := start.sat.toNat_lt
      rw [worth_nil, Nat.add_zero, decide_eq_false (Nat.not_le.mpr bound), Bool.and_false,
        if_neg Bool.false_ne_true, Nat.mod_eq_of_lt bound]
      rfl
  | cons amount amounts ih =>
      rw [List.foldlM_cons, worth_cons, add]
      split
      · next exceeds =>
          obtain ⟨checks, above⟩ := Bool.and_eq_true_iff.mp exceeds
          have above := of_decide_eq_true above
          rw [checks, decide_eq_true (by omega)]
          rfl
      · next fits =>
          show ((amounts.foldlM (add overflowChecks) ⟨start.sat + amount.sat⟩).map _) = _
          rw [ih, UInt64.toNat_add]
          cases overflowChecks with
          | false => simp [Nat.add_assoc]
          | true =>
              have fits : start.sat.toNat + amount.sat.toNat < 2 ^ 64 := by simpa using fits
              rw [Nat.mod_eq_of_lt fits, Nat.add_assoc]

/-- **A sum is taken modulo 2^64**, or panics. -/
theorem toNat_sum (overflowChecks : Bool) (amounts : List Amount) :
    (sum overflowChecks amounts).map (fun total => total.sat.toNat) =
      if overflowChecks && decide (2 ^ 64 ≤ worth amounts) then none
      else some (worth amounts % 2 ^ 64) := by
  have folded := foldlM_add overflowChecks amounts ⟨0⟩
  rwa [show (Amount.mk 0).sat.toNat = 0 from rfl, Nat.zero_add] at folded

/-- **When a sum is exact.** -/
theorem sum_exact_iff (overflowChecks : Bool) (amounts : List Amount) :
    (∃ total, sum overflowChecks amounts = some total ∧ total.sat.toNat = worth amounts) ↔
      worth amounts < 2 ^ 64 := by
  constructor
  · rintro ⟨total, _, exact⟩
    exact exact ▸ total.sat.toNat_lt
  · intro fits
    have added := toNat_sum overflowChecks amounts
    rw [decide_eq_false (Nat.not_le.mpr fits), Bool.and_false, if_neg Bool.false_ne_true,
      Nat.mod_eq_of_lt fits] at added
    exact Option.map_eq_some_iff.mp added

theorem checkedSub_eq_some_iff {a b rest : Amount} :
    a.checkedSub b = some rest ↔ b.sat.toNat + rest.sat.toNat = a.sat.toNat := by
  rw [checkedSub]
  constructor
  · intro subtracted
    split at subtracted
    · next le =>
        cases subtracted
        rw [UInt64.toNat_sub_of_le _ _ le]
        have le := UInt64.le_iff_toNat_le.mp le
        omega
    · cases subtracted
  · intro exact
    have le : b.sat ≤ a.sat := UInt64.le_iff_toNat_le.mpr (by omega)
    rw [if_pos le]
    cases rest with
    | mk sat =>
        refine congrArg (fun sat => some (Amount.mk sat)) (UInt64.toNat_inj.mp ?_)
        rw [UInt64.toNat_sub_of_le _ _ le]
        dsimp only at exact
        omega

end Amount

/-! ## Planning a release -/

structure FeeOutput (Address : Type) where
  address : Address
  amount : Amount

inductive ReleaseMode where
  | offchain | delegate
  deriving DecidableEq

structure ReleasePlan (Address : Type) where
  totalEscrowAmount : Amount
  buyerAmount : Amount
  effectiveFeeOutputs : List (FeeOutput Address)
  discardedFeeOutputs : List (FeeOutput Address)

/-- The fees that are paid, and what is left for the buyer. An amount is printed by
`amountText`. -/
def planRelease {Address : Type} (overflowChecks : Bool) (amountText : Amount → String)
    (totalEscrowAmount : Amount) (feeOutputs : List (FeeOutput Address)) (mode : ReleaseMode)
    (dust : Amount) : Checked (ReleasePlan Address) := do
  let (discardedFeeOutputs, effectiveFeeOutputs) := match mode with
    | .offchain => ([], feeOutputs)
    | .delegate => feeOutputs.partition fun o => decide (o.amount.sat < dust.sat)
  let totalFee ← Amount.sum overflowChecks (effectiveFeeOutputs.map (·.amount))
  let buyerAmount ← orError
    s!"fee exceeds amount locked up in escrow contract: {amountText totalFee} > {
      amountText totalEscrowAmount}"
    (totalEscrowAmount.checkedSub totalFee)
  ensure (decide (dust.sat ≤ buyerAmount.sat))
    s!"server dust ({amountText dust}) exceeds buyer payout ({amountText buyerAmount})"
  return { totalEscrowAmount, buyerAmount, effectiveFeeOutputs, discardedFeeOutputs }

section Release

variable {Address : Type}

/-- The fees that a release pays in this mode, in their order. -/
def paidFees (mode : ReleaseMode) (dust : Amount) (feeOutputs : List (FeeOutput Address)) :
    List (FeeOutput Address) :=
  match mode with
  | .offchain => feeOutputs
  | .delegate => feeOutputs.filter fun o => decide (dust.sat ≤ o.amount.sat)

/-- The other ones. -/
def droppedFees (mode : ReleaseMode) (dust : Amount) (feeOutputs : List (FeeOutput Address)) :
    List (FeeOutput Address) :=
  match mode with
  | .offchain => []
  | .delegate => feeOutputs.filter fun o => decide (o.amount.sat < dust.sat)

/-- What the fees that are paid are worth. -/
def paidWorth (mode : ReleaseMode) (dust : Amount) (feeOutputs : List (FeeOutput Address)) : Nat :=
  worth ((paidFees mode dust feeOutputs).map (·.amount))

variable {overflowChecks : Bool} {amountText : Amount → String} {total dust : Amount}
variable {feeOutputs : List (FeeOutput Address)} {mode : ReleaseMode}

theorem splitFees_eq :
    (match mode with
      | .offchain => ([], feeOutputs)
      | .delegate => feeOutputs.partition fun o => decide (o.amount.sat < dust.sat)) =
      (droppedFees mode dust feeOutputs, paidFees mode dust feeOutputs) := by
  cases mode with
  | offchain => rfl
  | delegate =>
      simp only [List.partition_eq_filter_filter, droppedFees, paidFees, Prod.mk.injEq, true_and]
      refine List.filter_congr fun o _ => ?_
      rw [Function.comp_apply, ← decide_not, decide_eq_decide, UInt64.not_lt]

/-- A release panics where adding up the fees does. -/
theorem planRelease_eq_none_iff :
    planRelease overflowChecks amountText total feeOutputs mode dust = none ↔
      Amount.sum overflowChecks ((paidFees mode dust feeOutputs).map (·.amount)) = none := by
  rw [planRelease.eq_def, splitFees_eq]
  constructor
  · intro panics
    rcases Checked.bind_eq_none_iff.mp panics with panics | ⟨totalFee, _, panics⟩
    · exact Checked.liftOption_eq_none_iff.mp panics
    rcases Checked.bind_eq_none_iff.mp panics with panics | ⟨buyerAmount, _, panics⟩
    · exact absurd panics (Checked.liftExcept_ne_none _)
    rcases Checked.bind_eq_none_iff.mp panics with panics | ⟨⟨⟩, _, panics⟩
    · exact absurd panics (Checked.liftExcept_ne_none _)
    · cases panics
  · intro panics
    exact Checked.bind_eq_none_iff.mpr (.inl (Checked.liftOption_eq_none_iff.mpr panics))

/-- **When a release is planned, and how.** -/
theorem planRelease_eq_ok_iff {plan : ReleasePlan Address} :
    planRelease overflowChecks amountText total feeOutputs mode dust = some (.ok plan) ↔
      ∃ totalFee, Amount.sum overflowChecks ((paidFees mode dust feeOutputs).map (·.amount)) =
          some totalFee ∧
        totalFee.sat.toNat + plan.buyerAmount.sat.toNat = total.sat.toNat ∧
        dust.sat.toNat ≤ plan.buyerAmount.sat.toNat ∧ plan.totalEscrowAmount = total ∧
        plan.effectiveFeeOutputs = paidFees mode dust feeOutputs ∧
        plan.discardedFeeOutputs = droppedFees mode dust feeOutputs := by
  rw [planRelease.eq_def, splitFees_eq]
  constructor
  · intro planned
    obtain ⟨totalFee, added, planned⟩ := Checked.bind_eq_ok_iff.mp planned
    obtain ⟨buyerAmount, left, planned⟩ := Checked.bind_eq_ok_iff.mp planned
    obtain ⟨⟨⟩, enough, planned⟩ := Checked.bind_eq_ok_iff.mp planned
    cases planned
    refine ⟨totalFee, Checked.liftOption_eq_ok_iff.mp added, ?_, ?_, rfl, rfl, rfl⟩
    · have left := Checked.liftExcept_eq_ok_iff.mp left
      exact Amount.checkedSub_eq_some_iff.mp (orError_eq_ok_iff.mp left)
    · have enough := Checked.liftExcept_eq_ok_iff.mp enough
      exact UInt64.le_iff_toNat_le.mp (of_decide_eq_true (ensure_eq_ok_iff.mp enough))
  · rintro ⟨totalFee, added, left, enough, rfl, effective, discarded⟩
    refine Checked.bind_eq_ok_iff.mpr ⟨totalFee, Checked.liftOption_eq_ok_iff.mpr added, ?_⟩
    refine Checked.bind_eq_ok_iff.mpr ⟨plan.buyerAmount, ?_, ?_⟩
    · exact Checked.liftExcept_eq_ok_iff.mpr
        (orError_eq_ok_iff.mpr (Amount.checkedSub_eq_some_iff.mpr left))
    · refine Checked.bind_eq_ok_iff.mpr ⟨(), ?_, ?_⟩
      · exact Checked.liftExcept_eq_ok_iff.mpr
          (ensure_eq_ok_iff.mpr (decide_eq_true (UInt64.le_iff_toNat_le.mpr enough)))
      · rw [← effective, ← discarded]
        rfl

end Release

end ArkadeEscrow
