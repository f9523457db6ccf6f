import Mathlib.Data.List.Basic
import Mathlib.Data.List.Perm.Basic

/-!
# Merkle trees

A tree of values is hashed from its leaves to its root. The path of a leaf is the list of the
hashes next to the way from it to the root, and hashing along it gives the root
(`climb_of_mem_paths`).

A tree can be built from its leaves alone, added from left to right with their depths.
`insert` keeps the nodes that wait for their right neighbours, one for each depth at most, and
combines two nodes as soon as it has both. Adding the leaves of a tree is adding the tree
(`foldlM_leavesAt`).
-/

set_option autoImplicit false

namespace ArkadeEscrow.Merkle

variable {α H : Type}

/-- How leaves and pairs of nodes are hashed. A pair is hashed without an order. -/
structure Hashing (α H : Type) where
  leaf : α → H
  pair : H → H → H
  pair_comm : ∀ a b, pair a b = pair b a

inductive Tree (α : Type) where
  | leaf (value : α)
  | branch (left right : Tree α)

namespace Tree

def leaves : Tree α → List α
  | leaf value => [value]
  | branch left right => left.leaves ++ right.leaves

def depth : Tree α → Nat
  | leaf _ => 0
  | branch left right => max left.depth right.depth + 1

/-- The leaves from left to right, with their depths below a node at `level`. -/
def leavesAt (level : Nat) : Tree α → List (Nat × α)
  | leaf value => [(level, value)]
  | branch left right => left.leavesAt (level + 1) ++ right.leavesAt (level + 1)

def root (hashing : Hashing α H) : Tree α → H
  | leaf value => hashing.leaf value
  | branch left right => hashing.pair (left.root hashing) (right.root hashing)

/-- The leaves with their paths, the nearest hash first. -/
def paths (hashing : Hashing α H) : Tree α → List (α × List H)
  | leaf value => [(value, [])]
  | branch left right =>
      (left.paths hashing).map (fun leaf => (leaf.1, leaf.2 ++ [right.root hashing])) ++
        (right.paths hashing).map fun leaf => (leaf.1, leaf.2 ++ [left.root hashing])

theorem depth_lt_length_leaves (t : Tree α) : t.depth < t.leaves.length := by
  induction t with
  | leaf value => simp [depth, leaves]
  | branch left right ihLeft ihRight =>
      rw [depth, leaves, List.length_append]
      omega

theorem mem_leavesAt_le {t : Tree α} {level : Nat} {leaf : Nat × α}
    (member : leaf ∈ t.leavesAt level) : leaf.1 ≤ level + t.depth := by
  induction t generalizing level with
  | leaf value =>
      cases List.mem_singleton.mp member
      exact Nat.le_add_right _ _
  | branch left right ihLeft ihRight =>
      rw [depth]
      rcases List.mem_append.mp member with member | member
      · have bound := ihLeft member
        omega
      · have bound := ihRight member
        omega

theorem map_fst_paths (hashing : Hashing α H) (t : Tree α) :
    (t.paths hashing).map Prod.fst = t.leaves := by
  induction t with
  | leaf value => rfl
  | branch left right ihLeft ihRight =>
      rw [paths, leaves, List.map_append, List.map_map, List.map_map, ← ihLeft, ← ihRight]
      rfl

end Tree

/-- Hash along a path. -/
def climb (hashing : Hashing α H) (node : H) (path : List H) : H := path.foldl hashing.pair node

/-- **The path of a leaf leads to the root.** -/
theorem climb_of_mem_paths {hashing : Hashing α H} {t : Tree α} {value : α} {path : List H}
    (member : (value, path) ∈ t.paths hashing) :
    climb hashing (hashing.leaf value) path = t.root hashing := by
  induction t generalizing path with
  | leaf value' =>
      cases List.mem_singleton.mp member
      rfl
  | branch left right ihLeft ihRight =>
      rcases List.mem_append.mp member with member | member
      · obtain ⟨⟨_, below⟩, here, same⟩ := List.mem_map.mp member
        cases same
        rw [climb, List.foldl_append]
        exact congrArg (hashing.pair · _) (ihLeft here)
      · obtain ⟨⟨_, below⟩, here, same⟩ := List.mem_map.mp member
        cases same
        rw [climb, List.foldl_append]
        refine (congrArg (hashing.pair · _) (ihRight here)).trans ?_
        exact hashing.pair_comm _ _

/-! ## Building a tree from its leaves -/

/-- The nodes that wait for their right neighbours, the deepest first. -/
abbrev Pending (α : Type) := List (Option (Tree α))

/-- Combine a node with the one that waits at its depth, and so on towards the root. -/
def carry : Pending α → Tree α → Option (Pending α)
  | [], node => some [some node]
  | none :: above, node => some (some node :: above)
  | [some _], _ => none
  | some left :: waiting :: above, node => carry (waiting :: above) (.branch left node)

/-- Add a node at a depth. -/
def insert (limit : Nat) (pending : Pending α) (depth : Nat) (node : Tree α) :
    Option (Pending α) :=
  if limit < depth ∨ depth + 1 < pending.length then none
  else if pending.length = depth + 1 then carry pending node
  else some (some node :: (List.replicate (depth - pending.length) none ++ pending))

/-- What a right node does where the left one waits. -/
theorem carry_insert_left {pending : Pending α} {depth : Nat} (short : pending.length ≤ depth + 1)
    (left right : Tree α) :
    carry (some left :: (List.replicate (depth + 1 - pending.length) none ++ pending)) right =
      if pending.length = depth + 1 then carry pending (.branch left right)
      else some (some (.branch left right) ::
        (List.replicate (depth - pending.length) none ++ pending)) := by
  rcases Nat.eq_or_lt_of_le short with full | short
  · rw [if_pos full, full, Nat.sub_self, List.replicate_zero, List.nil_append]
    cases pending with
    | nil => cases full
    | cons waiting above => rfl
  · have open_ : depth + 1 - pending.length = depth - pending.length + 1 := by omega
    rw [if_neg (Nat.ne_of_lt short), open_, List.replicate_succ]
    rfl

/-- **Adding the leaves of a tree is adding the tree.** -/
theorem foldlM_leavesAt {limit : Nat} (t : Tree α) {pending : Pending α} {level : Nat}
    (short : pending.length ≤ level + 1) (fits : level + t.depth ≤ limit) :
    (t.leavesAt level).foldlM (fun pending leaf => insert limit pending leaf.1 (.leaf leaf.2))
      pending = insert limit pending level t := by
  induction t generalizing pending level with
  | leaf value => exact bind_pure _
  | branch left right ihLeft ihRight =>
      rw [Tree.depth] at fits
      rw [Tree.leavesAt, List.foldlM_append, ihLeft (by omega) (by omega)]
      have added : insert limit pending (level + 1) left =
          some (some left :: (List.replicate (level + 1 - pending.length) none ++ pending)) := by
        rw [insert, if_neg (by omega), if_neg (by omega)]
      have length : (some left :: (List.replicate (level + 1 - pending.length) none ++
          pending)).length = level + 1 + 1 := by
        simp only [List.length_cons, List.length_append, List.length_replicate]
        omega
      have whole : insert limit pending level (.branch left right) =
          if pending.length = level + 1 then carry pending (.branch left right)
          else some (some (.branch left right) ::
            (List.replicate (level - pending.length) none ++ pending)) := by
        rw [insert, if_neg (by omega)]
      rw [added, whole, ← carry_insert_left short]
      refine (ihRight (Nat.le_of_eq length) (by omega)).trans ?_
      rw [insert, length, if_neg (by omega), if_pos rfl]

/-- All leaves of a tree, added from nothing, give the tree. -/
theorem foldlM_leavesAt_nil {limit : Nat} {t : Tree α} (fits : t.depth ≤ limit) :
    (t.leavesAt 0).foldlM (fun pending leaf => insert limit pending leaf.1 (.leaf leaf.2)) [] =
      some [some t] := by
  rw [foldlM_leavesAt t (Nat.zero_le _) (by omega)]
  rfl

end ArkadeEscrow.Merkle
