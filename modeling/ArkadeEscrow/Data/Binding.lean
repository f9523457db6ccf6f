import ArkadeEscrow.Data.Merkle

/-!
# What a root commits to

A root is only as good as the hashing: whoever proves to it what is not in the tree, or hashes
another tree to it, has hashed two different things to one value. The results name these
things: they are among what the tree and the proof have hashed, so nothing is assumed of the
hash function (`mem_paths_or_collides`, `leaves_perm_or_collides`).
-/

set_option autoImplicit false

namespace ArkadeEscrow.Merkle

variable {α β H : Type}

/-- What is hashed. -/
inductive Preimage (α H : Type) where
  | leaf (value : α)
  | pair (a b : H)

namespace Preimage

def hash (hashing : Hashing α H) : Preimage α H → H
  | leaf value => hashing.leaf value
  | pair a b => hashing.pair a b

/-- The two are hashed alike by design: a pair has no order. -/
inductive Same : Preimage α H → Preimage α H → Prop where
  | leaf (value : α) : Same (leaf value) (leaf value)
  | pair (a b : H) : Same (pair a b) (pair a b)
  | swap (a b : H) : Same (pair a b) (pair b a)

/-- Pairs that are hashed alike have the same sides. -/
theorem Same.sides {a b c d : H} (same : (Preimage.pair a b : Preimage α H).Same (.pair c d)) :
    (a = c ∧ b = d) ∨ (a = d ∧ b = c) := by
  cases same with
  | pair => exact .inl ⟨rfl, rfl⟩
  | swap => exact .inr ⟨rfl, rfl⟩

end Preimage

/-- Two different ones among these have one hash. -/
def Collides (hashing : Hashing α H) (preimages : List (Preimage α H)) : Prop :=
  ∃ p ∈ preimages, ∃ q ∈ preimages, ¬p.Same q ∧ p.hash hashing = q.hash hashing

theorem Collides.mono {hashing : Hashing α H} {preimages more : List (Preimage α H)}
    (collides : Collides hashing preimages) (within : preimages ⊆ more) :
    Collides hashing more := by
  obtain ⟨p, member, q, member', different, equal⟩ := collides
  exact ⟨p, within member, q, within member', different, equal⟩

/-- One hash has one preimage, or there is a collision. -/
theorem same_or_collides {hashing : Hashing α H} (preimages : List (Preimage α H))
    {p q : Preimage α H} (member : p ∈ preimages) (member' : q ∈ preimages)
    (equal : p.hash hashing = q.hash hashing) : p.Same q ∨ Collides hashing preimages := by
  by_cases same : p.Same q
  · exact .inl same
  · exact .inr ⟨p, member, q, member', same, equal⟩

/-- No path is longer than the tree is deep. -/
theorem Tree.length_path_le_depth {hashing : Hashing α H} {t : Tree α} {leaf : α × List H}
    (member : leaf ∈ t.paths hashing) : leaf.2.length ≤ t.depth := by
  induction t generalizing leaf with
  | leaf value =>
      cases List.mem_singleton.mp member
      exact Nat.le_refl 0
  | branch left right ihLeft ihRight =>
      rw [depth]
      rcases List.mem_append.mp member with member | member
      · obtain ⟨below, here, rfl⟩ := List.mem_map.mp member
        have bound := ihLeft here
        rw [List.length_append, List.length_singleton]
        omega
      · obtain ⟨below, here, rfl⟩ := List.mem_map.mp member
        have bound := ihRight here
        rw [List.length_append, List.length_singleton]
        omega

/-! ## Relabelled leaves -/

/-- Hash a leaf as what it stands for. -/
def Hashing.comap (f : α → β) (hashing : Hashing β H) : Hashing α H where
  leaf value := hashing.leaf (f value)
  pair := hashing.pair
  pair_comm := hashing.pair_comm

namespace Tree

def map (f : α → β) : Tree α → Tree β
  | leaf value => leaf (f value)
  | branch left right => branch (left.map f) (right.map f)

theorem leaves_map (f : α → β) (t : Tree α) : (t.map f).leaves = t.leaves.map f := by
  induction t with
  | leaf value => rfl
  | branch left right ihLeft ihRight =>
      rw [map, leaves, ihLeft, ihRight, leaves, List.map_append]

theorem root_map (f : α → β) (hashing : Hashing β H) (t : Tree α) :
    (t.map f).root hashing = t.root (hashing.comap f) := by
  induction t with
  | leaf value => rfl
  | branch left right ihLeft ihRight =>
      rw [map, root, ihLeft, ihRight]
      rfl

theorem paths_map (f : α → β) (hashing : Hashing β H) (t : Tree α) :
    (t.map f).paths hashing =
      (t.paths (hashing.comap f)).map fun leaf => (f leaf.1, leaf.2) := by
  induction t with
  | leaf value => rfl
  | branch left right ihLeft ihRight =>
      rw [map, paths, ihLeft, ihRight, paths, root_map, root_map]
      simp only [List.map_map, List.map_append, Function.comp_def]

end Tree

/-! ## What is hashed on the way to a root -/

/-- What is hashed to get the root of a tree. -/
def Tree.preimages (hashing : Hashing α H) : Tree α → List (Preimage α H)
  | leaf value => [.leaf value]
  | branch left right =>
      .pair (left.root hashing) (right.root hashing) ::
        (left.preimages hashing ++ right.preimages hashing)

/-- The last hash of a tree. -/
def Tree.top (hashing : Hashing α H) : Tree α → Preimage α H
  | leaf value => .leaf value
  | branch left right => .pair (left.root hashing) (right.root hashing)

/-- The pairs that are hashed along a path. -/
def climbed (hashing : Hashing α H) : H → List H → List (Preimage α H)
  | _, [] => []
  | node, next :: path => .pair node next :: climbed hashing (hashing.pair node next) path

theorem Tree.hash_top (hashing : Hashing α H) (t : Tree α) :
    (t.top hashing).hash hashing = t.root hashing := by
  cases t <;> rfl

theorem Tree.top_mem_preimages (hashing : Hashing α H) (t : Tree α) :
    t.top hashing ∈ t.preimages hashing := by
  cases t <;> exact List.mem_cons_self

theorem Tree.preimages_left_subset (hashing : Hashing α H) (left right : Tree α) :
    left.preimages hashing ⊆ (branch left right).preimages hashing := fun _ member =>
  List.mem_cons_of_mem _ (List.mem_append_left _ member)

theorem Tree.preimages_right_subset (hashing : Hashing α H) (left right : Tree α) :
    right.preimages hashing ⊆ (branch left right).preimages hashing := fun _ member =>
  List.mem_cons_of_mem _ (List.mem_append_right _ member)

theorem climb_concat (hashing : Hashing α H) (node : H) (path : List H) (last : H) :
    climb hashing node (path ++ [last]) = hashing.pair (climb hashing node path) last :=
  List.foldl_concat ..

/-- What is hashed to prove a value: its leaf and the pairs along the path. -/
def opening (hashing : Hashing α H) (value : α) (path : List H) : List (Preimage α H) :=
  .leaf value :: climbed hashing (hashing.leaf value) path

theorem climbed_concat (hashing : Hashing α H) (node : H) (path : List H) (last : H) :
    climbed hashing node (path ++ [last]) =
      climbed hashing node path ++ [.pair (climb hashing node path) last] := by
  induction path generalizing node with
  | nil => rfl
  | cons next path ih =>
      rw [List.cons_append, climbed, ih, climbed]
      rfl

theorem opening_concat (hashing : Hashing α H) (value : α) (path : List H) (last : H) :
    opening hashing value (path ++ [last]) = opening hashing value path ++
      [.pair (climb hashing (hashing.leaf value) path) last] := by
  rw [opening, opening, climbed_concat, List.cons_append]

/-- The last hash of an opening. -/
theorem exists_last_opening (hashing : Hashing α H) (value : α) (path : List H) :
    ∃ p ∈ opening hashing value path, p.hash hashing =
      climb hashing (hashing.leaf value) path ∧
      ((path = [] ∧ p = .leaf value) ∨ ∃ before last, path = before ++ [last] ∧
        p = .pair (climb hashing (hashing.leaf value) before) last) := by
  rcases List.eq_nil_or_concat path with rfl | ⟨before, last, rfl⟩
  · exact ⟨.leaf value, List.mem_cons_self, rfl, .inl ⟨rfl, rfl⟩⟩
  · rw [List.concat_eq_append, opening_concat, climb_concat]
    exact ⟨_, List.mem_append_right _ (List.mem_singleton.mpr rfl), rfl,
      .inr ⟨before, last, rfl, rfl⟩⟩

/-! ## Binding -/

/-- **A path that leads to the root of a tree is the path of a leaf**, or there is a collision
among what was hashed. -/
theorem mem_paths_or_collides {hashing : Hashing α H} (t : Tree α) {value : α} {path : List H}
    (leads : climb hashing (hashing.leaf value) path = t.root hashing) :
    (value, path) ∈ t.paths hashing ∨
      Collides hashing (opening hashing value path ++ t.preimages hashing) := by
  induction t generalizing path with
  | leaf value' =>
      obtain ⟨p, member, hash, shape⟩ := exists_last_opening hashing value path
      have both := same_or_collides _ (List.mem_append_left _ member)
        (List.mem_append_right _ ((Tree.leaf value').top_mem_preimages hashing))
        (hash.trans leads)
      refine both.imp_left fun same => ?_
      rcases shape with ⟨rfl, rfl⟩ | ⟨before, last, rfl, rfl⟩
      · cases same
        exact List.mem_singleton.mpr rfl
      · cases same
  | branch left right ihLeft ihRight =>
      obtain ⟨p, member, hash, shape⟩ := exists_last_opening hashing value path
      have both := same_or_collides _ (List.mem_append_left _ member)
        (List.mem_append_right _ ((Tree.branch left right).top_mem_preimages hashing))
        (hash.trans leads)
      rcases both with same | collides
      · rcases shape with ⟨rfl, rfl⟩ | ⟨before, last, rfl, rfl⟩
        · cases same
        -- The last pair of the path is the pair at the top of the tree.
        have within (side : Tree α) (part : side.preimages hashing ⊆
            (Tree.branch left right).preimages hashing) :
            opening hashing value before ++ side.preimages hashing ⊆
              opening hashing value (before ++ [last]) ++
                (Tree.branch left right).preimages hashing := by
          rw [opening_concat, List.append_assoc]
          exact List.append_subset.mpr ⟨List.subset_append_left _ _,
            fun q here => List.mem_append_right _ (List.mem_append_right _ (part here))⟩
        generalize below : climb hashing (hashing.leaf value) before = node at same
        cases same with
        | pair =>
            rcases ihLeft below with member | collides
            · exact .inl (List.mem_append_left _ (List.mem_map.mpr ⟨_, member, rfl⟩))
            · exact .inr (collides.mono (within left (Tree.preimages_left_subset _ _ _)))
        | swap =>
            rcases ihRight below with member | collides
            · exact .inl (List.mem_append_right _ (List.mem_map.mpr ⟨_, member, rfl⟩))
            · exact .inr (collides.mono (within right (Tree.preimages_right_subset _ _ _)))
      · exact .inr collides

/-- **Trees with one root have the same leaves**, or there is a collision among what was
hashed. -/
theorem leaves_perm_or_collides {hashing : Hashing α H} (t t' : Tree α)
    (equal : t.root hashing = t'.root hashing) :
    t.leaves.Perm t'.leaves ∨
      Collides hashing (t.preimages hashing ++ t'.preimages hashing) := by
  have both (t t' : Tree α) (equal : t.root hashing = t'.root hashing) :=
    same_or_collides (t.preimages hashing ++ t'.preimages hashing)
      (List.mem_append_left _ (t.top_mem_preimages hashing))
      (List.mem_append_right _ (t'.top_mem_preimages hashing))
      ((t.hash_top hashing).trans (equal.trans (t'.hash_top hashing).symm))
  induction t generalizing t' with
  | leaf value =>
      refine (both (.leaf value) t' equal).imp_left fun same => ?_
      cases t' with
      | leaf value' => cases same; exact .refl _
      | branch left' right' => cases same
  | branch left right ihLeft ihRight =>
      rcases both (.branch left right) t' equal with same | collides
      · cases t' with
        | leaf value' => cases same
        | branch left' right' =>
            have inside {side side' : Tree α}
                (part : side.preimages hashing ⊆ (Tree.branch left right).preimages hashing)
                (part' : side'.preimages hashing ⊆ (Tree.branch left' right').preimages hashing)
                (collides : Collides hashing (side.preimages hashing ++ side'.preimages hashing)) :
                Collides hashing ((Tree.branch left right).preimages hashing ++
                  (Tree.branch left' right').preimages hashing) :=
              collides.mono (List.append_subset.mpr
                ⟨fun q here => List.mem_append_left _ (part here),
                fun q here => List.mem_append_right _ (part' here)⟩)
            have inLeft := Tree.preimages_left_subset hashing left right
            have inRight := Tree.preimages_right_subset hashing left right
            have inLeft' := Tree.preimages_left_subset hashing left' right'
            have inRight' := Tree.preimages_right_subset hashing left' right'
            rcases Preimage.Same.sides same with ⟨first, second⟩ | ⟨first, second⟩
            · rcases ihLeft left' first with perm | collides
              · exact (ihRight right' second).imp perm.append (inside inRight inRight')
              · exact .inr (inside inLeft inLeft' collides)
            · rcases ihLeft right' first with perm | collides
              · refine (ihRight left' second).imp (fun perm' => ?_) (inside inRight inLeft')
                exact (perm.append perm').trans List.perm_append_comm
              · exact .inr (inside inLeft inRight' collides)
      · exact .inr collides

end ArkadeEscrow.Merkle
