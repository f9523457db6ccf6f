import ArkadeEscrow.Data.Merkle
import ArkadeEscrow.Policy

/-!
# The tree of a contract

The leaf scripts of a contract are combined to a tree, which is handed to the builder leaf by
leaf. Combining keeps the leaves (`combine_scripts`), and the builder gets them in depth-first
order with their depths (`addToBuilder_eq`). The scripts are pairwise different, since they
decode to different instructions (`leafScripts_nodup`).

`BuildsTrees` is what is known of the builder. So each leaf has a control block, nothing else
has, and the control block proves the leaf to the output key (`taproot_commits`).
-/

set_option autoImplicit false

namespace ArkadeEscrow

/-! ## The leaves of a tree -/

def TreeNode.scripts : TreeNode → List ScriptBuf
  | .leaf script _ => [script]
  | .branch left right _ => left.scripts ++ right.scripts

/-- **Combining nodes keeps their leaves.** -/
theorem combine_scripts (nodes : List TreeNode) (some : nodes ≠ []) :
    (combine nodes some).scripts.Perm (nodes.flatMap TreeNode.scripts) := by
  fun_induction combine nodes some with
  | case1 nodes some b a rest sorted ih =>
      have perm : (b :: a :: rest).Perm nodes := by
        rw [← sorted]
        exact (List.reverse_perm _).trans (List.mergeSort_perm nodes _)
      refine ih.trans (List.Perm.trans ?_ (perm.flatMap_right _))
      rw [List.flatMap_append, List.flatMap_singleton, List.flatMap_cons, List.flatMap_cons]
      have others := (List.reverse_perm rest).flatMap_right TreeNode.scripts
      refine (others.append_right _).trans (List.perm_append_comm.trans ?_)
      rw [TreeNode.scripts, ← List.append_assoc]
      exact List.perm_append_comm.append_right _
  | case2 nodes some other =>
      match nodes, some with
      | [node], _ => simp
      | first :: second :: rest, _ =>
          cases sorted : ((first :: second :: rest).mergeSort
              fun a b => decide (b.weight ≤ a.weight)).reverse with
          | nil =>
              have lengths := congrArg List.length sorted
              simp at lengths
          | cons b sorted' =>
              cases sorted' with
              | nil =>
                  have lengths := congrArg List.length sorted
                  simp at lengths
              | cons a rest => exact absurd sorted (other b a rest)

/-- The tree without its weights. -/
def TreeNode.toTree : TreeNode → Merkle.Tree ScriptBuf
  | .leaf script _ => .leaf script
  | .branch left right _ => .branch left.toTree right.toTree

theorem TreeNode.leaves_toTree (node : TreeNode) : node.toTree.leaves = node.scripts := by
  induction node with
  | leaf script weight => rfl
  | branch left right weight ihLeft ihRight =>
      rw [TreeNode.toTree, Merkle.Tree.leaves, ihLeft, ihRight, TreeNode.scripts]

variable {B : BitcoinLib} {T : TaprootLib} {options : EscrowOptions}

theorem leafNodes_ne_nil :
    ((options.leafScripts B).map fun script => TreeNode.leaf script 1) ≠ [] := by
  simp [EscrowOptions.leafScripts]

/-- The tree of the options. -/
def EscrowOptions.tree (B : BitcoinLib) (options : EscrowOptions) : Merkle.Tree ScriptBuf :=
  (combine ((options.leafScripts B).map fun script => TreeNode.leaf script 1)
    leafNodes_ne_nil).toTree

/-- **The tree has the six leaves.** -/
theorem leaves_tree : (options.tree B).leaves.Perm (options.leafScripts B) := by
  rw [EscrowOptions.tree, TreeNode.leaves_toTree]
  refine (combine_scripts _ _).trans ?_
  rw [List.flatMap_map]
  simp [TreeNode.scripts]

theorem depth_tree_lt : (options.tree B).depth < 6 := by
  have depth := (options.tree B).depth_lt_length_leaves
  rwa [leaves_tree.length_eq] at depth

/-! ## The leaves are different -/

theorem leafScripts_nodup (builds : BuildsScripts B) (valid : options.validate = .ok ()) :
    (options.leafScripts B).Nodup := by
  rw [leafScripts_eq_map]
  have all : LeafPolicy.all.Nodup := by decide
  refine all.map fun policy policy'
    (same : policy.script B options = policy'.script B options) => ?_
  exact LeafPolicy.Enforced.unique valid (LeafPolicy.enforced builds policy)
    (same ▸ LeafPolicy.enforced builds policy')

/-! ## The builder -/

/-- `TAPROOT_CONTROL_MAX_NODE_COUNT`. -/
def maxDepth : Nat := 128

/-- `TapTweakHash` and the tweaked key: the output key and its parity. -/
abbrev Tweak := XOnlyPublicKey → BitVec 256 → XOnlyPublicKey × Bool

/-- What a finished tree gives: an output key that is tweaked by its root, and for each leaf a
control block with a path of it. -/
structure Commits (T : TaprootLib) (hashing : Merkle.Hashing ScriptBuf (BitVec 256))
    (tweak : Tweak) (tree : Merkle.Tree ScriptBuf) (internalKey : XOnlyPublicKey)
    (spendInfo : T.SpendInfo) : Prop where
  outputKey : T.outputKey spendInfo = (tweak internalKey (tree.root hashing)).1
  leaf : ∀ script ∈ tree.leaves, ∃ path, (script, path) ∈ tree.paths hashing ∧
    T.controlBlock spendInfo (script, leafVersionTapScript) =
      some ⟨leafVersionTapScript, (tweak internalKey (tree.root hashing)).2, internalKey, path⟩
  other : ∀ script, script ∉ tree.leaves →
    T.controlBlock spendInfo (script, leafVersionTapScript) = none

/-- What the `bitcoin` crate documents of its taproot trees: the leaves of a tree can be added
in depth-first order with their depths, and give that tree; and a control block is checked by
hashing along its path. -/
structure BuildsTrees (B : BitcoinLib) (T : TaprootLib)
    (hashing : Merkle.Hashing ScriptBuf (BitVec 256)) (tweak : Tweak) : Prop where
  leaf : ∀ script, hashing.leaf script = (B.leafHash script leafVersionTapScript).digest
  built : ∀ tree : Merkle.Tree ScriptBuf, tree.depth ≤ maxDepth → ∃ builder,
    (tree.leavesAt 0).foldlM (fun builder leaf =>
      T.addLeaf builder (UInt8.ofNat leaf.1) leaf.2) T.new = some builder ∧
    ∀ internalKey, ∃ spendInfo, T.finalize builder internalKey = some spendInfo ∧
      Commits T hashing tweak tree internalKey spendInfo
  verifies : ∀ block outputKey script, B.verifyTaprootCommitment block outputKey script = true ↔
    tweak block.internalKey (Merkle.climb hashing (B.leafHash script block.leafVersion).digest
      block.merkleBranch) = (outputKey, block.outputKeyParity)

/-- **The builder gets the leaves in depth-first order**, with their depths. -/
theorem addToBuilder_eq_ok_iff {node : TreeNode} {builder builder' : T.Builder} {level : Nat} :
    addToBuilder T builder (UInt8.ofNat level) node = .ok builder' ↔
      (node.toTree.leavesAt level).foldlM (fun builder leaf =>
        T.addLeaf builder (UInt8.ofNat leaf.1) leaf.2) builder = some builder' := by
  induction node generalizing builder builder' level with
  | leaf script weight =>
      rw [addToBuilder, orError_eq_ok_iff, TreeNode.toTree, Merkle.Tree.leavesAt,
        List.foldlM_cons]
      exact (bind_pure (T.addLeaf builder (UInt8.ofNat level) script)).symm ▸ Iff.rfl
  | branch left right weight ihLeft ihRight =>
      have deeper : UInt8.ofNat level + 1 = UInt8.ofNat (level + 1) :=
        (UInt8.ofNat_add level 1).symm
      rw [addToBuilder, deeper, TreeNode.toTree, Merkle.Tree.leavesAt, List.foldlM_append]
      constructor
      · intro added
        obtain ⟨between, added, added'⟩ := Results.bind_eq_ok_iff.mp added
        exact Option.bind_eq_some_iff.mpr ⟨between, ihLeft.mp added, ihRight.mp added'⟩
      · intro added
        obtain ⟨between, added, added'⟩ := Option.bind_eq_some_iff.mp added
        exact Results.bind_eq_ok_iff.mpr ⟨between, ihLeft.mpr added, ihRight.mpr added'⟩

variable {hashing : Merkle.Hashing ScriptBuf (BitVec 256)} {tweak : Tweak}

/-- **The tree of the options is built.** -/
theorem exists_buildTaproot (trees : BuildsTrees B T hashing tweak) :
    ∃ spendInfo, buildTaproot B T options = .ok spendInfo ∧
      Commits T hashing tweak (options.tree B) T.unspendableKey spendInfo := by
  have shallow : (options.tree B).depth ≤ maxDepth :=
    (Nat.lt_of_lt_of_le depth_tree_lt (by decide)).le
  obtain ⟨builder, added, finalizes⟩ := trees.built (options.tree B) shallow
  obtain ⟨spendInfo, finalized, commits⟩ := finalizes T.unspendableKey
  refine ⟨spendInfo, ?_, commits⟩
  exact Results.bind_eq_ok_iff.mpr ⟨builder, addToBuilder_eq_ok_iff.mpr added,
    orError_eq_ok_iff.mpr finalized⟩

/-- **A contract with another server is built**, unless the server collides with a party. -/
theorem EscrowContract.exists_withServer_iff (trees : BuildsTrees B T hashing tweak)
    {contract : EscrowContract B T} {server : XOnlyPublicKey} :
    (∃ candidate, contract.withServer server = .ok candidate) ↔
      server ∉ contract.options.parties := by
  constructor
  · rintro ⟨candidate, made⟩
    exact server_not_mem_parties made
  · intro other
    have valid := (EscrowOptions.validate_server_eq_ok_iff contract.valid).mpr other
    obtain ⟨spendInfo, built, _⟩ := exists_buildTaproot trees
    exact exists_new_of_built valid ⟨spendInfo, built⟩ contract.network

/-- **A control block proves its leaf.** -/
theorem Commits.verifies (trees : BuildsTrees B T hashing tweak)
    {tree : Merkle.Tree ScriptBuf} {internalKey : XOnlyPublicKey} {spendInfo : T.SpendInfo}
    (commits : Commits T hashing tweak tree internalKey spendInfo) {script : ScriptBuf}
    {block : ControlBlock}
    (found : T.controlBlock spendInfo (script, leafVersionTapScript) = some block) :
    script ∈ tree.leaves ∧
      B.verifyTaprootCommitment block (T.outputKey spendInfo) script = true := by
  by_cases member : script ∈ tree.leaves
  · refine ⟨member, ?_⟩
    obtain ⟨path, here, same⟩ := commits.leaf script member
    cases found.symm.trans same
    rw [trees.verifies, ← trees.leaf, Merkle.climb_of_mem_paths here, commits.outputKey]
  · cases found.symm.trans (commits.other script member)

/-! ## A builder that combines as it goes -/

noncomputable section

namespace Sample

/-- Pairs are hashed by adding. -/
def adding : Merkle.Hashing ScriptBuf (BitVec 256) where
  leaf script := (BitcoinLib.reference.leafHash script leafVersionTapScript).digest
  pair a b := a + b
  pair_comm := BitVec.add_comm

def shifting : Tweak := fun internalKey root => (⟨internalKey.coordinate + root⟩, false)

/-- The reference library, with control blocks that are checked along their paths. -/
def climbing : BitcoinLib := { BitcoinLib.reference with
  verifyTaprootCommitment := fun block outputKey script =>
    decide (shifting block.internalKey (Merkle.climb adding
      (BitcoinLib.reference.leafHash script block.leafVersion).digest block.merkleBranch) =
        (outputKey, block.outputKeyParity)) }

/-- The end of a tree: only its root is left. -/
def finalize (builder : Merkle.Pending ScriptBuf) (internalKey : XOnlyPublicKey) :
    Option (Option (Merkle.Tree ScriptBuf) × XOnlyPublicKey) :=
  match builder with
  | [] => some (none, internalKey)
  | [some tree] => some (some tree, internalKey)
  | _ => none

def combining : TaprootLib where
  Builder := Merkle.Pending ScriptBuf
  SpendInfo := Option (Merkle.Tree ScriptBuf) × XOnlyPublicKey
  new := []
  addLeaf builder depth script := Merkle.insert maxDepth builder depth.toNat (.leaf script)
  finalize := finalize
  controlBlock spendInfo leaf := do
    let tree ← spendInfo.1
    let (_, path) ← (tree.paths adding).find? fun entry =>
      decide ((entry.1, leafVersionTapScript) = leaf)
    return ⟨leaf.2, (shifting spendInfo.2 (tree.root adding)).2, spendInfo.2, path⟩
  outputKey spendInfo :=
    (shifting spendInfo.2 (spendInfo.1.elim 0 fun tree => tree.root adding)).1
  unspendableKey := ⟨0⟩

theorem buildsScripts_climbing : BuildsScripts climbing :=
  ⟨buildsScripts_reference.pushInt, buildsScripts_reference.pushXOnlyKey⟩

theorem buildsTrees_combining : BuildsTrees climbing combining adding shifting where
  leaf _ := rfl
  built tree shallow := by
    have bytes : (tree.leavesAt 0).foldlM (fun builder leaf =>
        combining.addLeaf builder (UInt8.ofNat leaf.1) leaf.2) combining.new =
        (tree.leavesAt 0).foldlM (fun pending leaf =>
          Merkle.insert maxDepth pending leaf.1 (.leaf leaf.2)) [] := by
      refine Results.foldlM_congr_of_mem [] fun leaf member pending => ?_
      have bound := Merkle.Tree.mem_leavesAt_le member
      have byte : (UInt8.ofNat leaf.1).toNat = leaf.1 :=
        UInt8.toNat_ofNat_of_lt' (by rw [maxDepth] at shallow; simp only [UInt8.size]; omega)
      exact congrArg (fun depth => Merkle.insert maxDepth pending depth (.leaf leaf.2)) byte
    refine ⟨[some tree], bytes.trans (Merkle.foldlM_leavesAt_nil shallow), fun internalKey => ?_⟩
    refine ⟨(some tree, internalKey), rfl, rfl, fun script member => ?_, fun script absent => ?_⟩
    · have listed : script ∈ (tree.paths adding).map Prod.fst := by
        rwa [Merkle.Tree.map_fst_paths]
      obtain ⟨⟨script, path⟩, here, rfl⟩ := List.mem_map.mp listed
      cases first : (tree.paths adding).find? fun entry =>
          decide ((entry.1, leafVersionTapScript) = (script, leafVersionTapScript)) with
      | none => simpa using List.find?_eq_none.mp first _ here
      | some entry =>
          obtain ⟨script', path'⟩ := entry
          obtain rfl : script' = script := by simpa using List.find?_some first
          refine ⟨path', List.mem_of_find?_eq_some first, ?_⟩
          show ((tree.paths adding).find? _).bind _ = _
          rw [first]
          rfl
    · have missing : ((tree.paths adding).find? fun entry =>
          decide ((entry.1, leafVersionTapScript) = (script, leafVersionTapScript))) = none := by
        refine List.find?_eq_none.mpr fun entry member same => absent ?_
        obtain rfl : entry.1 = script := by simpa using same
        rw [← Merkle.Tree.map_fst_paths adding]
        exact List.mem_map_of_mem member
      show ((tree.paths adding).find? _).bind _ = _
      rw [missing]
      rfl
  verifies block outputKey script := decide_eq_true_iff

end Sample

end

/-! ## The requirement -/

/-- The output key of a contract commits to its six leaves, and to nothing else. -/
structure CommitsToLeaves (contract : EscrowContract B T) : Prop where
  proved : ∀ script ∈ contract.tapscripts, ∃ block, contract.controlBlock script = .ok block
  signers : ∀ set : SignerSet, set.script B contract.options ∈ contract.tapscripts
  other : ∀ script, script ∉ contract.tapscripts → ∃ e, contract.controlBlock script = .error e
  verified : ∀ script block, contract.controlBlock script = .ok block → ∃ outputKey,
    contract.scriptPubkey = 0x51 :: 0x20 :: outputKey.serialize ∧
      B.verifyTaprootCommitment block outputKey script = true

/-- **The output of a contract commits to exactly its six leaves.** -/
theorem taproot_commits (builds : BuildsScripts B) (trees : BuildsTrees B T hashing tweak)
    (valid : options.validate = .ok ()) :
    (options.leafScripts B).Nodup ∧ (∃ spendInfo, buildTaproot B T options = .ok spendInfo) ∧
    ∀ network, ∃ contract, EscrowContract.new B T options network = .ok contract ∧
      contract.tapscripts = options.leafScripts B ∧ CommitsToLeaves contract := by
  obtain ⟨spendInfo, built, commits⟩ := @exists_buildTaproot B T options hashing tweak trees
  refine ⟨leafScripts_nodup builds valid, ⟨spendInfo, built⟩, fun network => ?_⟩
  let contract : EscrowContract B T := ⟨options, spendInfo, network, valid, built⟩
  refine ⟨contract, contract.new_self, rfl, ?_⟩
  have member {script : ScriptBuf} :
      script ∈ contract.tapscripts ↔ script ∈ (options.tree B).leaves :=
    leaves_tree.mem_iff.symm
  constructor
  case proved =>
    intro script leaf
    obtain ⟨path, _, found⟩ := commits.leaf script (member.mp leaf)
    exact ⟨_, orError_eq_ok_iff.mpr found⟩
  case signers =>
    intro set
    cases set <;> simp [SignerSet.script, EscrowContract.tapscripts, EscrowOptions.leafScripts]
  case other =>
    intro script absent
    have missing := commits.other script fun leaf => absent (member.mpr leaf)
    refine ⟨.msg "script not found in taproot tree", ?_⟩
    rw [EscrowContract.controlBlock, missing]
    rfl
  case verified =>
    intro script block found
    exact ⟨T.outputKey spendInfo, rfl, (commits.verifies trees (orError_eq_ok_iff.mp found)).2⟩

theorem taproot_commits_sample :
    (Sample.options.leafScripts Sample.climbing).Nodup ∧
      (∃ spendInfo, buildTaproot Sample.climbing Sample.combining Sample.options =
        .ok spendInfo) ∧
      ∀ network, ∃ contract,
        EscrowContract.new Sample.climbing Sample.combining Sample.options network = .ok contract ∧
          contract.tapscripts = Sample.options.leafScripts Sample.climbing ∧
          CommitsToLeaves contract :=
  taproot_commits Sample.buildsScripts_climbing Sample.buildsTrees_combining rfl

end ArkadeEscrow
