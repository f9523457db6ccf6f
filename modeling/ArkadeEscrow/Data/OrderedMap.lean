import Mathlib.Data.Finset.Card
import Mathlib.Data.List.Basic

/-!
# Ordered maps that are merged

A `BTreeMap` is `Std.ExtTreeMap` over the order of its keys. `orInsertAll` inserts the
entries of one map into another without replacing any: the first writer of a key wins
(`getElem?_orInsertAll`). `collect` fills a map from a list of keys, whose order does not
matter (`collect_congr`). `firstKeyValue` is the entry with the least key. `sorted` sorts a
list by the same order, and forgets just the order it was in (`sorted_eq_sorted_iff`).
-/

set_option autoImplicit false

open Std

namespace ArkadeEscrow

/-- A map ordered by its keys. -/
abbrev BTreeMap (K V : Type) [Ord K] := ExtTreeMap K V compare

/-- Comparing through an injective function tells apart what it should. -/
theorem lawfulEqCmp_compareOn {α β : Type} [Ord β] [LawfulEqOrd β] (f : α → β)
    (injective : ∀ a b, f a = f b → a = b) : LawfulEqCmp (compareOn f) where
  compare_self := ReflOrd.compare_self (α := β)
  eq_of_compare same := injective _ _ (LawfulEqOrd.eq_of_compare same)

/-- `v.sort()`. -/
def sorted {α : Type} [Ord α] (xs : List α) : List α := xs.mergeSort fun a b => (compare a b).isLE

/-- **Sorting forgets the order of a list**, and nothing else. -/
theorem sorted_eq_sorted_iff {α : Type} [Ord α] [TransOrd α] [LawfulEqOrd α] {xs ys : List α} :
    sorted xs = sorted ys ↔ xs.Perm ys := by
  have perm (list : List α) : (sorted list).Perm list := List.mergeSort_perm list _
  have ordered (list : List α) : (sorted list).Pairwise fun a b => (compare a b).isLE := by
    refine List.pairwise_mergeSort ?_ ?_ list
    · exact fun a b c => TransCmp.isLE_trans
    · intro a b
      have swap : compare b a = (compare a b).swap := OrientedCmp.eq_swap
      rw [swap]
      cases compare a b <;> rfl
  constructor
  · intro same
    exact (perm xs).symm.trans (same ▸ perm ys)
  · intro same
    refine List.Perm.eq_of_pairwise ?_ (ordered xs) (ordered ys)
      ((perm xs).trans (same.trans (perm ys).symm))
    intro a b _ _ le ge
    exact LawfulEqOrd.eq_of_compare (OrientedCmp.isLE_antisymm le ge)

namespace BTreeMap

variable {K V : Type} [Ord K] [TransOrd K]

/-- `for (k, v) in other { base.entry(k).or_insert(v) }`. -/
def orInsertAll (base other : BTreeMap K V) : BTreeMap K V :=
  other.foldl (fun merged k v => merged.insertIfNew k v) base

/-- The entry with the least key. -/
def firstKeyValue (m : BTreeMap K V) : Option (K × V) :=
  m.minKey?.bind fun k => m[k]?.map fun v => (k, v)

/-- The map with these keys, and the value that `f` has for each. -/
def collect (f : K → V) (keys : List K) : BTreeMap K V :=
  keys.foldl (fun collected k => collected.insert k (f k)) ∅

theorem collect_append_singleton (f : K → V) (keys : List K) (k : K) :
    collect f (keys ++ [k]) = (collect f keys).insert k (f k) := by
  rw [collect, List.foldl_append]
  rfl

@[simp] theorem firstKeyValue_singleton (k : K) (v : V) :
    firstKeyValue ((∅ : BTreeMap K V).insert k v) = some (k, v) := by
  have least : ((∅ : BTreeMap K V).insert k v).minKey? = some k :=
    ExtTreeMap.minKey?_insert_of_isEmpty (by simp)
  simp [firstKeyValue, least]

variable [LawfulEqOrd K]

theorem getElem?_foldl_insertIfNew (entries : List (K × V)) (base : BTreeMap K V) (k : K) :
    (entries.foldl (fun merged entry => merged.insertIfNew entry.1 entry.2) base)[k]? =
      base[k]?.or ((entries.find? fun entry => compare entry.1 k == .eq).map (·.2)) := by
  induction entries generalizing base with
  | nil => simp
  | cons entry entries ih =>
      rw [List.foldl_cons, ih, ExtTreeMap.getElem?_insertIfNew, List.find?_cons]
      by_cases same : compare entry.1 k = .eq
      · have key : entry.1 = k := LawfulEqOrd.eq_of_compare same
        subst key
        by_cases member : entry.1 ∈ base
        · obtain ⟨v, found⟩ := Option.isSome_iff_exists.mp
            (ExtTreeMap.mem_iff_isSome_getElem?.mp member)
          simp [member]
        · simp [member]
      · have other : (compare entry.1 k == .eq) = false := by simpa using same
        simp [other, same]

/-- **The first writer of a key wins.** -/
theorem getElem?_orInsertAll (base other : BTreeMap K V) (k : K) :
    (orInsertAll base other)[k]? = base[k]?.or other[k]? := by
  have entries : (other.toList.find? fun entry => compare entry.1 k == .eq).map (·.2) =
      other[k]? := by
    cases found : other.toList.find? fun entry => compare entry.1 k == .eq with
    | none =>
        rw [Option.map_none, eq_comm, Option.eq_none_iff_forall_ne_some]
        intro v present
        have member := ExtTreeMap.mem_toList_iff_getElem?_eq_some.mpr present
        simpa using List.find?_eq_none.mp found _ member
    | some entry =>
        have key : entry.1 = k :=
          LawfulEqOrd.eq_of_compare (by simpa using List.find?_some found)
        have member : (entry.1, entry.2) ∈ other.toList := List.mem_of_find?_eq_some found
        rw [Option.map_some, ← key]
        exact (ExtTreeMap.mem_toList_iff_getElem?_eq_some.mp member).symm
  rw [orInsertAll, ExtTreeMap.foldl_eq_foldl_toList, getElem?_foldl_insertIfNew, entries]

/-! ## Maps filled from a list of keys -/

section Collect

variable {f : K → V} {keys keys' : List K} {k : K} [DecidableEq K]

theorem getElem?_collect : (collect f keys)[k]? = if k ∈ keys then some (f k) else none := by
  induction keys using List.reverseRecOn with
  | nil => simp [collect]
  | append_singleton keys last ih =>
      rw [collect_append_singleton, ExtTreeMap.getElem?_insert, ih]
      by_cases same : last = k
      · subst same
        simp
      · have other : compare last k ≠ .eq := fun eq => same (LawfulEqOrd.eq_of_compare eq)
        simp [other, Ne.symm same]

theorem mem_collect : k ∈ collect f keys ↔ k ∈ keys := by
  rw [ExtTreeMap.mem_iff_isSome_getElem?, getElem?_collect]
  split <;> simp_all

theorem size_collect : (collect f keys).size = keys.toFinset.card := by
  induction keys using List.reverseRecOn with
  | nil => simp [collect]
  | append_singleton keys last ih =>
      have keys_append : (keys ++ [last]).toFinset = insert last keys.toFinset := by
        ext k
        simp
      rw [collect_append_singleton, ExtTreeMap.size_insert, ih, keys_append,
        Finset.card_insert_eq_ite]
      simp only [ExtTreeMap.contains_iff_mem, mem_collect, List.mem_toFinset]

/-- **The order of the keys does not matter**, nor how often one is repeated. -/
theorem collect_congr (same : ∀ k, k ∈ keys ↔ k ∈ keys') : collect f keys = collect f keys' := by
  refine ExtTreeMap.ext_getElem? fun k => ?_
  rw [getElem?_collect, getElem?_collect]
  simp only [same k]

end Collect

end BTreeMap

end ArkadeEscrow
