import Mathlib.Data.List.Forall2

/-!
# Loops that stop at the first error

A loop over a list whose body can fail returns the first error, or the results of all the
bodies: `mapM_eq_ok_iff` and `forM_eq_ok_iff` say so for `List.mapM` and `List.forM` in
`Except`.
-/

set_option autoImplicit false

namespace ArkadeEscrow.Results

universe u v w

variable {ε : Type u} {α : Type v} {β : Type w}

theorem ok_bind {ε α β : Type} (a : α) (f : α → Except ε β) : (Except.ok a >>= f) = f a := rfl

theorem bind_eq_ok_iff {γ : Type w} {x : Except ε α} {f : α → Except ε γ} {c : γ} :
    x.bind f = .ok c ↔ ∃ a, x = .ok a ∧ f a = .ok c := by
  cases x with
  | error e => simp [Except.bind]
  | ok a => simp [Except.bind]

theorem mapM_eq_ok_iff {ε α β : Type} {f : α → Except ε β} {xs : List α} {ys : List β} :
    xs.mapM f = .ok ys ↔ List.Forall₂ (fun x y => f x = .ok y) xs ys := by
  induction xs generalizing ys with
  | nil =>
      rw [List.mapM_nil, List.forall₂_nil_left_iff]
      exact ⟨fun same => (Except.ok.inj same).symm, fun same => congrArg _ same.symm⟩
  | cons x xs ih =>
      rw [List.mapM_cons, List.forall₂_cons_left_iff]
      constructor
      · intro accepted
        obtain ⟨y, head, accepted⟩ := bind_eq_ok_iff.mp accepted
        obtain ⟨rest, tail, accepted⟩ := bind_eq_ok_iff.mp accepted
        exact ⟨y, rest, head, ih.mp tail, (Except.ok.inj accepted).symm⟩
      · intro parts
        rcases parts with ⟨y, rest, head, tail, rfl⟩
        exact bind_eq_ok_iff.mpr ⟨y, head, bind_eq_ok_iff.mpr ⟨rest, ih.mpr tail, rfl⟩⟩

theorem exists_of_mem_left {α β : Type} {R : α → β → Prop} {xs : List α} {ys : List β}
    (related : List.Forall₂ R xs ys) {x : α} (member : x ∈ xs) : ∃ y ∈ ys, R x y := by
  induction related with
  | nil => cases member
  | cons head _ ih =>
      rcases List.mem_cons.mp member with rfl | member
      · exact ⟨_, List.mem_cons_self, head⟩
      · obtain ⟨y, found, same⟩ := ih member
        exact ⟨y, List.mem_cons_of_mem _ found, same⟩

/-- Related elements with the same image. -/
theorem map_eq_map_of_forall₂ {α β γ : Type} {R : α → β → Prop} {f : α → γ} {g : β → γ}
    {xs : List α} {ys : List β} (related : List.Forall₂ R xs ys)
    (same : ∀ x y, R x y → f x = g y) : xs.map f = ys.map g := by
  induction related with
  | nil => rfl
  | cons head _ ih => rw [List.map_cons, List.map_cons, same _ _ head, ih]

/-- Two lists related to a third one, element by element. -/
theorem forall₂_compose {α β γ : Type} {R : α → β → Prop} {S : β → γ → Prop} {P : α → γ → Prop}
    {xs : List α} {ys : List β} {zs : List γ} (first : List.Forall₂ R xs ys)
    (second : List.Forall₂ S ys zs) (compose : ∀ x y z, R x y → S y z → P x z) :
    List.Forall₂ P xs zs := by
  induction first generalizing zs with
  | nil =>
      cases second
      exact .nil
  | cons head _ ih =>
      cases second with
      | cons head' tail' => exact .cons (compose _ _ _ head head') (ih tail')

/-- The same for `Option`, where a failure has no error. -/
theorem mapM_eq_some_iff {α β : Type} {f : α → Option β} {xs : List α} {ys : List β} :
    xs.mapM f = some ys ↔ List.Forall₂ (fun x y => f x = some y) xs ys := by
  induction xs generalizing ys with
  | nil =>
      rw [List.mapM_nil, List.forall₂_nil_left_iff]
      exact ⟨fun same => (Option.some.inj same).symm, fun same => congrArg _ same.symm⟩
  | cons x xs ih =>
      rw [List.mapM_cons, List.forall₂_cons_left_iff]
      constructor
      · intro accepted
        obtain ⟨y, head, accepted⟩ := Option.bind_eq_some_iff.mp accepted
        obtain ⟨rest, tail, accepted⟩ := Option.bind_eq_some_iff.mp accepted
        exact ⟨y, rest, head, ih.mp tail, (Option.some.inj accepted).symm⟩
      · intro parts
        rcases parts with ⟨y, rest, head, tail, rfl⟩
        exact Option.bind_eq_some_iff.mpr ⟨y, head,
          Option.bind_eq_some_iff.mpr ⟨rest, ih.mpr tail, rfl⟩⟩

/-- A loop in `Option` succeeds when every body does. -/
theorem mapM_isSome_iff {α β : Type} {f : α → Option β} {xs : List α} :
    (∃ ys, xs.mapM f = some ys) ↔ ∀ x ∈ xs, ∃ y, f x = some y := by
  constructor
  · rintro ⟨ys, accepted⟩ x member
    obtain ⟨y, _, same⟩ := exists_of_mem_left (mapM_eq_some_iff.mp accepted) member
    exact ⟨y, same⟩
  · intro pointwise
    induction xs with
    | nil => exact ⟨[], rfl⟩
    | cons x xs ih =>
        obtain ⟨y, head⟩ := pointwise x List.mem_cons_self
        obtain ⟨ys, tail⟩ := ih fun x' member => pointwise x' (List.mem_cons_of_mem x member)
        exact ⟨y :: ys, mapM_eq_some_iff.mpr (.cons head (mapM_eq_some_iff.mp tail))⟩

theorem foldlM_congr_of_mem {α β : Type} {f g : β → α → Option β} {xs : List α} (start : β)
    (same : ∀ x ∈ xs, ∀ b, f b x = g b x) : xs.foldlM f start = xs.foldlM g start := by
  induction xs generalizing start with
  | nil => rfl
  | cons x xs ih =>
      rw [List.foldlM_cons, List.foldlM_cons, same x List.mem_cons_self]
      exact congrArg _ (funext fun b => ih b fun x' member =>
        same x' (List.mem_cons_of_mem x member))

/-- `mapM` succeeds when its body does on every element. -/
theorem exists_mapM_eq_ok_iff {ε α β : Type} {f : α → Except ε β} {xs : List α} :
    (∃ ys, xs.mapM f = .ok ys) ↔ ∀ x ∈ xs, ∃ y, f x = .ok y := by
  induction xs with
  | nil => exact ⟨fun _ => by simp, fun _ => ⟨[], rfl⟩⟩
  | cons x xs ih =>
      rw [List.forall_mem_cons, ← ih]
      constructor
      · rintro ⟨ys, mapped⟩
        obtain ⟨y, ys, head, tail, rfl⟩ := List.forall₂_cons_left_iff.mp (mapM_eq_ok_iff.mp mapped)
        exact ⟨⟨y, head⟩, ys, mapM_eq_ok_iff.mpr tail⟩
      · rintro ⟨⟨y, head⟩, ys, tail⟩
        exact ⟨y :: ys, mapM_eq_ok_iff.mpr (.cons head (mapM_eq_ok_iff.mp tail))⟩

theorem forM_eq_ok_iff {ε α : Type} {f : α → Except ε Unit} {xs : List α} :
    xs.forM f = .ok () ↔ ∀ x ∈ xs, f x = .ok () := by
  induction xs with
  | nil => exact ⟨fun _ => by simp, fun _ => rfl⟩
  | cons x xs ih =>
      rw [List.forall_mem_cons, ← ih]
      constructor
      · intro accepted
        obtain ⟨⟨⟩, head, tail⟩ := bind_eq_ok_iff.mp accepted
        exact ⟨head, tail⟩
      · intro parts
        rcases parts with ⟨head, tail⟩
        exact bind_eq_ok_iff.mpr ⟨(), head, tail⟩

/-- A loop over a list with positions, for a body whose success does not depend on the
position. -/
theorem forM_zipIdx_eq_ok_iff {ε α : Type} {f : α × Nat → Except ε Unit} {P : α → Prop}
    (body : ∀ x i, f (x, i) = .ok () ↔ P x) {xs : List α} :
    xs.zipIdx.forM f = .ok () ↔ ∀ x ∈ xs, P x := by
  rw [forM_eq_ok_iff]
  constructor
  · intro accepted x member
    obtain ⟨i, bound, rfl⟩ := List.mem_iff_getElem.mp member
    exact (body _ i).mp (accepted _ (List.mk_mem_zipIdx_iff_getElem?.mpr (by simp)))
  · rintro holds ⟨x, i⟩ member
    exact (body x i).mpr (holds x (List.fst_mem_of_mem_zipIdx member))

end ArkadeEscrow.Results
