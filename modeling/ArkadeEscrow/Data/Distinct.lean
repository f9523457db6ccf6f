import Mathlib.Data.List.Nodup
import Mathlib.Data.List.Perm.Subperm

/-!
# Lists without repetitions

`distinct` keeps of each value the first occurrence, and `repeats` are the other ones
(`distinct_append_repeats`). Two lists with the same members need not be in the same order;
what is looked up in them by a property that only one member has is the same
(`find?_eq_of_unique`).
-/

set_option autoImplicit false

namespace ArkadeEscrow.Distinct

variable {α β : Type}

section Values

variable [DecidableEq α]

/-- `if !xs.contains(&x) { xs.push(x) }`. -/
def pushUnique (xs : List α) (x : α) : List α := if x ∈ xs then xs else xs ++ [x]

/-- Each value once, where it comes first. -/
def distinct (xs : List α) : List α := xs.foldl pushUnique []

theorem mem_pushUnique {xs : List α} {x y : α} : y ∈ pushUnique xs x ↔ y ∈ xs ∨ y = x := by
  rw [pushUnique]
  split
  · next member =>
      constructor
      · exact .inl
      · rintro (here | rfl)
        · exact here
        · exact member
  · simp

theorem nodup_pushUnique {xs : List α} (nodup : xs.Nodup) (x : α) : (pushUnique xs x).Nodup := by
  rw [pushUnique]
  split
  · exact nodup
  · next absent =>
      refine List.nodup_append.mpr ⟨nodup, List.nodup_singleton x, ?_⟩
      rintro y member z here rfl
      exact absent (List.mem_singleton.mp here ▸ member)

theorem mem_foldl_pushUnique {xs seen : List α} {y : α} :
    y ∈ xs.foldl pushUnique seen ↔ y ∈ seen ∨ y ∈ xs := by
  induction xs generalizing seen with
  | nil => simp
  | cons x xs ih => rw [List.foldl_cons, ih, mem_pushUnique, List.mem_cons, or_assoc]

theorem nodup_foldl_pushUnique {xs seen : List α} (nodup : seen.Nodup) :
    (xs.foldl pushUnique seen).Nodup := by
  induction xs generalizing seen with
  | nil => exact nodup
  | cons x xs ih => exact ih (nodup_pushUnique nodup x)

theorem prefix_foldl_pushUnique (xs seen : List α) : seen <+: xs.foldl pushUnique seen := by
  induction xs generalizing seen with
  | nil => exact List.prefix_refl seen
  | cons x xs ih =>
      refine List.IsPrefix.trans ?_ (ih (pushUnique seen x))
      rw [pushUnique]
      split
      · exact List.prefix_refl seen
      · exact List.prefix_append seen [x]

@[simp] theorem mem_distinct {xs : List α} {y : α} : y ∈ distinct xs ↔ y ∈ xs := by
  simp [distinct, mem_foldl_pushUnique]

theorem nodup_distinct (xs : List α) : (distinct xs).Nodup := nodup_foldl_pushUnique List.nodup_nil

/-- The first value stays the first. -/
theorem exists_distinct_cons (x : α) (xs : List α) : ∃ rest, distinct (x :: xs) = x :: rest := by
  obtain ⟨rest, split⟩ := prefix_foldl_pushUnique xs [x]
  exact ⟨rest, split.symm⟩

/-- Each value as often as it occurs after its first time. -/
def repeats (xs : List α) : List α := xs.diff (distinct xs)

theorem distinct_append_repeats (xs : List α) : (distinct xs ++ repeats xs).Perm xs := by
  refine List.subperm_append_diff_self_of_count_le fun x member => ?_
  rw [List.count_eq_one_of_mem (nodup_distinct xs) member]
  exact List.one_le_count_iff.mpr (mem_distinct.mp member)

end Values

/-- **A lookup that only one member answers** does not depend on the order. -/
theorem find?_eq_of_unique {xs ys : List α} {p : α → Bool} (same : ∀ x, x ∈ xs ↔ x ∈ ys)
    (unique : ∀ x ∈ xs, ∀ y ∈ xs, p x → p y → x = y) : xs.find? p = ys.find? p := by
  cases found : xs.find? p with
  | none =>
      refine (List.find?_eq_none.mpr fun y member => ?_).symm
      exact List.find?_eq_none.mp found y ((same y).mpr member)
  | some x =>
      have member := List.mem_of_find?_eq_some found
      have holds := List.find?_some found
      cases found' : ys.find? p with
      | none => exact absurd holds (List.find?_eq_none.mp found' x ((same x).mp member))
      | some y =>
          have member' := (same y).mpr (List.mem_of_find?_eq_some found')
          exact congrArg some (unique x member y member' holds (List.find?_some found'))

/-- Members of a list with distinct keys are found by their keys. -/
theorem find?_key_iff [DecidableEq β] {key : α → β} {xs : List α} (keyed : (xs.map key).Nodup)
    {x : α} {k : β} : (xs.find? fun y => key y == k) = some x ↔ x ∈ xs ∧ key x = k := by
  constructor
  · intro found
    exact ⟨List.mem_of_find?_eq_some found, by simpa using List.find?_some found⟩
  · rintro ⟨member, rfl⟩
    cases found : xs.find? fun y => key y == key x with
    | none => exact absurd (beq_self_eq_true (key x)) (List.find?_eq_none.mp found x member)
    | some y =>
        have same : key y = key x := by simpa using List.find?_some found
        rw [List.inj_on_of_nodup_map keyed (List.mem_of_find?_eq_some found) member same]

/-- Where each result names the value that it is made from, the results of a list name those
of its values that have one, in their order. -/
theorem map_filterMap_of_key {f : α → Option β} {key : β → α}
    (keyed : ∀ x y, f x = some y → key y = x) (xs : List α) :
    (xs.filterMap f).map key = xs.filter fun x => (f x).isSome := by
  induction xs with
  | nil => rfl
  | cons x xs ih =>
      cases made : f x with
      | none =>
          rw [List.filterMap_cons_none made, List.filter_cons_of_neg (by simp [made]), ih]
      | some y =>
          rw [List.filterMap_cons_some made, List.filter_cons_of_pos (by simp [made]),
            List.map_cons, keyed x y made, ih]

end ArkadeEscrow.Distinct
