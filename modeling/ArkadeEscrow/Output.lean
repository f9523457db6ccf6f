import ArkadeEscrow.Data.Binding
import ArkadeEscrow.Taproot

/-!
# Who can spend the output of a contract

A contract is paid to its output key, and whoever spends from there brings a script and a
control block of their own choice. Consensus knows neither the contract nor its leaves: it
hashes its way to the output key, with the leaf version that the control block names, and runs
the script only if that is the version of a tapscript.

So the two-of-three policy is one of the output, and not only of the leaves, because nothing but
the six leaves with their own control blocks leads to the key (`script_path_spend_iff`). And two
contracts have one output only if they have the same options (`options_eq_of_scriptPubkey`).
Neither is assumed to be impossible: whoever does otherwise breaks the hash functions
(`Breaks`), at hashes that they have computed.
-/

set_option autoImplicit false

namespace ArkadeEscrow

open Tapscript

/-! ## What an output key commits to -/

/-- Leaves are hashed with their versions. -/
def versioned (B : BitcoinLib) (hashing : Merkle.Hashing ScriptBuf (BitVec 256)) :
    Merkle.Hashing (ScriptBuf × LeafVersion) (BitVec 256) where
  leaf leaf := (B.leafHash leaf.1 leaf.2).digest
  pair := hashing.pair
  pair_comm := hashing.pair_comm

/-- What an output key is computed from, and what was hashed on the way. -/
structure Commitment where
  internalKey : XOnlyPublicKey
  root : BitVec 256
  preimages : List (Merkle.Preimage (ScriptBuf × LeafVersion) (BitVec 256))

variable {B : BitcoinLib} {T : TaprootLib} {options options' : EscrowOptions}
variable {hashing : Merkle.Hashing ScriptBuf (BitVec 256)} {tweak : Tweak}
variable {network network' : Network}

/-- The tree with the version of its leaves. -/
def tapscriptTree (tree : Merkle.Tree ScriptBuf) : Merkle.Tree (ScriptBuf × LeafVersion) :=
  tree.map fun script => (script, leafVersionTapScript)

/-- What the output key of a contract commits to. -/
def EscrowContract.commitment (hashing : Merkle.Hashing ScriptBuf (BitVec 256))
    (contract : EscrowContract B T) : Commitment where
  internalKey := T.unspendableKey
  root := (tapscriptTree (contract.options.tree B)).root (versioned B hashing)
  preimages := (tapscriptTree (contract.options.tree B)).preimages (versioned B hashing)

/-- What a script and a control block are checked against. -/
def ControlBlock.commitment (B : BitcoinLib) (hashing : Merkle.Hashing ScriptBuf (BitVec 256))
    (block : ControlBlock) (script : ScriptBuf) : Commitment where
  internalKey := block.internalKey
  root := Merkle.climb hashing (B.leafHash script block.leafVersion).digest block.merkleBranch
  preimages := Merkle.opening (versioned B hashing) (script, block.leafVersion)
    block.merkleBranch

/-- Two commitments break the hash functions: two things that were hashed have one hash, or two
tweaks give one key. -/
def Breaks (B : BitcoinLib) (hashing : Merkle.Hashing ScriptBuf (BitVec 256)) (tweak : Tweak)
    (c c' : Commitment) : Prop :=
  Merkle.Collides (versioned B hashing) (c.preimages ++ c'.preimages) ∨
    (c.internalKey, c.root) ≠ (c'.internalKey, c'.root) ∧
      (tweak c.internalKey c.root).1 = (tweak c'.internalKey c'.root).1

/-- A tweaked key has one commitment, or the tweak is broken. -/
theorem same_or_breaks {c c' : Commitment}
    (equal : (tweak c.internalKey c.root).1 = (tweak c'.internalKey c'.root).1) :
    (c.internalKey = c'.internalKey ∧ c.root = c'.root) ∨ Breaks B hashing tweak c c' := by
  by_cases same : (c.internalKey, c.root) = (c'.internalKey, c'.root)
  · cases c
    cases c'
    cases same
    exact .inl ⟨rfl, rfl⟩
  · exact .inr (.inr ⟨same, equal⟩)

/-! ## The tree of a contract -/

theorem comap_versioned (trees : BuildsTrees B T hashing tweak) :
    (versioned B hashing).comap (fun script => (script, leafVersionTapScript)) = hashing := by
  cases hashing
  rw [Merkle.Hashing.comap, Merkle.Hashing.mk.injEq]
  exact ⟨funext fun script => (trees.leaf script).symm, rfl⟩

theorem root_tapscriptTree (trees : BuildsTrees B T hashing tweak)
    (tree : Merkle.Tree ScriptBuf) :
    (tapscriptTree tree).root (versioned B hashing) = tree.root hashing := by
  rw [tapscriptTree, Merkle.Tree.root_map, comap_versioned trees]

theorem mem_paths_tapscriptTree (trees : BuildsTrees B T hashing tweak)
    {tree : Merkle.Tree ScriptBuf} {script : ScriptBuf} {version : LeafVersion}
    {path : List (BitVec 256)}
    (member : ((script, version), path) ∈ (tapscriptTree tree).paths (versioned B hashing)) :
    version = leafVersionTapScript ∧ (script, path) ∈ tree.paths hashing := by
  rw [tapscriptTree, Merkle.Tree.paths_map, comap_versioned trees] at member
  obtain ⟨leaf, here, same⟩ := List.mem_map.mp member
  cases same
  exact ⟨rfl, here⟩

/-- A contract has the tree of its options. -/
theorem EscrowContract.commits (trees : BuildsTrees B T hashing tweak)
    (contract : EscrowContract B T) :
    Commits T hashing tweak (contract.options.tree B) T.unspendableKey contract.spendInfo := by
  obtain ⟨spendInfo, built, commits⟩ := @exists_buildTaproot B T contract.options _ _ trees
  obtain rfl := Except.ok.inj (built.symm.trans contract.built)
  exact commits

theorem EscrowContract.outputKey_eq (trees : BuildsTrees B T hashing tweak)
    (contract : EscrowContract B T) :
    T.outputKey contract.spendInfo =
      (tweak (contract.commitment hashing).internalKey (contract.commitment hashing).root).1 := by
  rw [(contract.commits trees).outputKey, commitment, root_tapscriptTree trees]

theorem EscrowContract.outputKey_of_scriptPubkey {contract : EscrowContract B T}
    {key : XOnlyPublicKey} (pays : contract.scriptPubkey = 0x51 :: 0x20 :: key.serialize) :
    T.outputKey contract.spendInfo = key :=
  XOnlyPublicKey.serialize_injective (List.cons.inj (List.cons.inj pays).2).2

/-- A leaf has one path. -/
theorem eq_of_mem_paths {tree : Merkle.Tree ScriptBuf} (nodup : tree.leaves.Nodup)
    {script : ScriptBuf} {path path' : List (BitVec 256)}
    (member : (script, path) ∈ tree.paths hashing)
    (member' : (script, path') ∈ tree.paths hashing) : path = path' := by
  rw [← Merkle.Tree.map_fst_paths hashing] at nodup
  exact congrArg Prod.snd (List.inj_on_of_nodup_map nodup member member' rfl)

/-- **Each leaf has exactly one control block that leads to the output key**, and nothing else
has one. -/
theorem controlBlock_or_breaks (builds : BuildsScripts B) (trees : BuildsTrees B T hashing tweak)
    (contract : EscrowContract B T) {block : ControlBlock} {script : ScriptBuf}
    (verified : B.verifyTaprootCommitment block (T.outputKey contract.spendInfo) script = true) :
    (script ∈ contract.tapscripts ∧ contract.controlBlock script = .ok block) ∨
      Breaks B hashing tweak (contract.commitment hashing) (block.commitment B hashing script) := by
  have commits := contract.commits trees
  have tweaked := (trees.verifies _ _ _).mp verified
  have key := congrArg Prod.fst tweaked
  rw [contract.outputKey_eq trees] at key
  have bound : (_ ∧ _) ∨ Breaks B hashing tweak (contract.commitment hashing)
      (block.commitment B hashing script) := same_or_breaks key.symm
  rcases bound with ⟨internal, root⟩ | breaks
  · have leads : Merkle.climb (versioned B hashing)
        ((versioned B hashing).leaf (script, block.leafVersion)) block.merkleBranch =
        (tapscriptTree (contract.options.tree B)).root (versioned B hashing) := root.symm
    rcases Merkle.mem_paths_or_collides _ leads with member | collides
    · obtain ⟨version, here⟩ := mem_paths_tapscriptTree trees member
      have leaf : script ∈ (contract.options.tree B).leaves := by
        rw [← Merkle.Tree.map_fst_paths hashing]
        exact List.mem_map_of_mem here
      obtain ⟨path, here', found⟩ := commits.leaf script leaf
      have nodup := leaves_tree.nodup_iff.mpr (leafScripts_nodup builds contract.valid)
      obtain rfl := eq_of_mem_paths nodup here here'
      have parity := congrArg Prod.snd tweaked
      refine .inl ⟨leaves_tree.mem_iff.mp leaf, orError_eq_ok_iff.mpr (found.trans ?_)⟩
      have top : (contract.options.tree B).root hashing = Merkle.climb hashing
          (B.leafHash script block.leafVersion).digest block.merkleBranch :=
        (root_tapscriptTree trees _).symm.trans root
      have unspendable : T.unspendableKey = block.internalKey := internal
      rw [top, unspendable, ← version]
      exact congrArg (fun parity => some { block with outputKeyParity := parity }) parity
    · exact .inr (.inl (collides.mono fun p member => (List.mem_append.mp member).elim
        (List.mem_append_right _) (List.mem_append_left _)))
  · exact .inr breaks

/-! ## The policy of the output -/

/-- Consensus accepts this script-path spend of an output key. A version that is not the one of
a tapscript is not run. -/
structure ScriptPathSpend (B : BitcoinLib) (outputKey : XOnlyPublicKey) (block : ControlBlock)
    (script : ScriptBuf) (env : Environment) (stack : List Bytes) : Prop where
  deep : block.merkleBranch.length ≤ maxDepth
  verified : B.verifyTaprootCommitment block outputKey script = true
  valid : block.leafVersion = leafVersionTapScript → executes env script stack = true

/-- The spend is one of the ways that the contract has: by the leaf of a policy, with its own
control block, and with what the policy demands on the stack. -/
def SpendsByPolicy (contract : EscrowContract B T) (block : ControlBlock) (script : ScriptBuf)
    (env : Environment) (stack : List Bytes) : Prop :=
  ∃ policy : LeafPolicy, script = policy.script B contract.options ∧
    contract.controlBlock script = .ok block ∧ policy.Unlocks contract.options env stack

/-- What the contract offers is a tapscript that is not too deep. -/
theorem EscrowContract.controlBlock_spec (trees : BuildsTrees B T hashing tweak)
    {contract : EscrowContract B T} {script : ScriptBuf} {block : ControlBlock}
    (found : contract.controlBlock script = .ok block) :
    block.leafVersion = leafVersionTapScript ∧ block.merkleBranch.length ≤ maxDepth ∧
      B.verifyTaprootCommitment block (T.outputKey contract.spendInfo) script = true := by
  have commits := contract.commits trees
  have found := orError_eq_ok_iff.mp found
  obtain ⟨leaf, verified⟩ := commits.verifies trees found
  obtain ⟨path, here, same⟩ := commits.leaf script leaf
  cases found.symm.trans same
  have bound : path.length ≤ (contract.options.tree B).depth :=
    Merkle.Tree.length_path_le_depth here
  have shallow := @depth_tree_lt B contract.options
  exact ⟨rfl, by simp only [maxDepth]; omega, verified⟩

/-- **The two-of-three policy of an output.** Whatever script and control block are brought to
the output of a contract: either consensus accepts the spends that a policy of the
contract allows and no others, or the contract and the control block break the hash
functions. -/
theorem script_path_spend_iff (builds : BuildsScripts B) (trees : BuildsTrees B T hashing tweak)
    {contract : EscrowContract B T} {key : XOnlyPublicKey}
    (pays : contract.scriptPubkey = 0x51 :: 0x20 :: key.serialize) (block : ControlBlock)
    (script : ScriptBuf) :
    (∀ env stack, ScriptPathSpend B key block script env stack ↔
      SpendsByPolicy contract block script env stack) ∨
    Breaks B hashing tweak (contract.commitment hashing) (block.commitment B hashing script) := by
  obtain rfl := EscrowContract.outputKey_of_scriptPubkey pays
  have offered {env : Environment} {stack : List Bytes}
      (spends : SpendsByPolicy contract block script env stack) :
      ScriptPathSpend B (T.outputKey contract.spendInfo) block script env stack := by
    obtain ⟨policy, rfl, found, unlocks⟩ := spends
    obtain ⟨_, deep, verified⟩ := EscrowContract.controlBlock_spec trees found
    exact ⟨deep, verified, fun _ => (policy.enforced builds env stack).mpr unlocks⟩
  by_cases verified :
      B.verifyTaprootCommitment block (T.outputKey contract.spendInfo) script = true
  · refine (controlBlock_or_breaks builds trees contract verified).imp_left ?_
    rintro ⟨leaf, found⟩ env stack
    refine ⟨fun spend => ?_, offered⟩
    rw [EscrowContract.tapscripts, leafScripts_eq_map] at leaf
    obtain ⟨policy, _, rfl⟩ := List.mem_map.mp leaf
    obtain ⟨version, _⟩ := EscrowContract.controlBlock_spec trees found
    exact ⟨policy, rfl, found, (policy.enforced builds env stack).mp (spend.valid version)⟩
  · exact .inl fun env stack => ⟨fun spend => absurd spend.verified verified, offered⟩

/-- A contract of the sample escrow. -/
theorem Sample.exists_contract (network : Network) :
    ∃ contract : EscrowContract climbing combining,
      EscrowContract.new climbing combining Sample.options network = .ok contract := by
  obtain ⟨spendInfo, built, _⟩ := exists_buildTaproot buildsTrees_combining
  have valid : Sample.options.validate = .ok () := rfl
  exact EscrowContract.exists_new_of_built valid ⟨spendInfo, built⟩ network

theorem script_path_spend_sample :
    ∃ (contract : EscrowContract Sample.climbing Sample.combining) (key : XOnlyPublicKey),
      EscrowContract.new Sample.climbing Sample.combining Sample.options .regtest =
        .ok contract ∧
      ∀ (block : ControlBlock) (script : ScriptBuf),
        (∀ env stack, ScriptPathSpend Sample.climbing key block script env stack ↔
          SpendsByPolicy contract block script env stack) ∨
        Breaks Sample.climbing Sample.adding Sample.shifting
          (contract.commitment Sample.adding)
          (block.commitment Sample.climbing Sample.adding script) := by
  obtain ⟨contract, accepted⟩ := Sample.exists_contract .regtest
  exact ⟨contract, _, accepted, script_path_spend_iff Sample.buildsScripts_climbing
    Sample.buildsTrees_combining rfl⟩

/-! ## One output, one contract -/

/-- The keys of a leaf, in the order of the signatures. -/
theorem collaborative3of3_inj (builds : BuildsScripts B)
    {pkA pkB server pkA' pkB' server' : XOnlyPublicKey}
    (same : collaborative3of3 B pkA pkB server = collaborative3of3 B pkA' pkB' server') :
    pkA = pkA' ∧ pkB = pkB' ∧ server = server' := by
  have decoded := congrArg decode same
  rw [decode_collaborative3of3 builds, decode_collaborative3of3 builds] at decoded
  injection decoded with instrs
  simp only [List.cons.injEq, Instr.push.injEq, true_and, and_true] at instrs
  obtain ⟨first, second, third⟩ := instrs
  exact ⟨XOnlyPublicKey.serialize_injective first, XOnlyPublicKey.serialize_injective second,
    XOnlyPublicKey.serialize_injective third⟩

theorem unilateral2of2_inj (builds : BuildsScripts B) {delay delay' : UInt32}
    {pkA pkB pkA' pkB' : XOnlyPublicKey}
    (same : unilateral2of2 B delay pkA pkB = unilateral2of2 B delay' pkA' pkB') :
    delay = delay' ∧ pkA = pkA' ∧ pkB = pkB' := by
  have decoded := congrArg decode same
  rw [decode_unilateral2of2 builds, decode_unilateral2of2 builds] at decoded
  injection decoded with instrs
  simp only [List.cons.injEq, Instr.push.injEq, true_and, and_true] at instrs
  obtain ⟨number, first, second⟩ := instrs
  have value := congrArg Number.magnitude number
  rw [Number.magnitude_encode, Number.magnitude_encode] at value
  exact ⟨UInt32.toNat_inj.mp value, XOnlyPublicKey.serialize_injective first,
    XOnlyPublicKey.serialize_injective second⟩

theorem collaborative3of3_ne_unilateral2of2 (builds : BuildsScripts B) {delay : UInt32}
    {pkA pkB server pkA' pkB' : XOnlyPublicKey} :
    collaborative3of3 B pkA pkB server ≠ unilateral2of2 B delay pkA' pkB' := by
  intro same
  have decoded := congrArg decode same
  rw [decode_collaborative3of3 builds, decode_unilateral2of2 builds] at decoded
  injection decoded with instrs
  simp [opCheckSigVerify, opCheckSequenceVerify] at instrs

theorem LeafPolicy.script_collaborative (set : SignerSet) :
    LeafPolicy.script B ⟨.collaborative, set⟩ options =
      collaborative3of3 B (set.parties options).1 (set.parties options).2 options.server := by
  cases set <;> rfl

theorem LeafPolicy.script_unilateral (set : SignerSet) :
    LeafPolicy.script B ⟨.unilateral, set⟩ options =
      unilateral2of2 B options.unilateralExitDelay (set.parties options).1
        (set.parties options).2 := by
  cases set <;> rfl

/-- Scripts that are equal are of one kind, and name the same keys. -/
theorem LeafPolicy.script_inj (builds : BuildsScripts B) {policy policy' : LeafPolicy}
    (same : policy.script B options = policy'.script B options') :
    policy.kind = policy'.kind ∧ policy.set.parties options = policy'.set.parties options' ∧
      (policy.kind = .collaborative → options.server = options'.server) ∧
      (policy.kind = .unilateral →
        options.unilateralExitDelay = options'.unilateralExitDelay) := by
  obtain ⟨kind, set⟩ := policy
  obtain ⟨kind', set'⟩ := policy'
  cases kind with
  | collaborative =>
      rw [script_collaborative] at same
      cases kind' with
      | collaborative =>
          rw [script_collaborative] at same
          obtain ⟨first, second, server⟩ := collaborative3of3_inj builds same
          exact ⟨rfl, Prod.ext first second, fun _ => server, nofun⟩
      | unilateral =>
          rw [script_unilateral] at same
          exact absurd same (collaborative3of3_ne_unilateral2of2 builds)
  | unilateral =>
      rw [script_unilateral] at same
      cases kind' with
      | collaborative =>
          rw [script_collaborative] at same
          exact absurd same.symm (collaborative3of3_ne_unilateral2of2 builds)
      | unilateral =>
          rw [script_unilateral] at same
          obtain ⟨delay, first, second⟩ := unilateral2of2_inj builds same
          exact ⟨rfl, Prod.ext first second, nofun, fun _ => delay⟩

/-- The pairs of parties determine who is who: the seller is first in two of them, and the
arbiter second. -/
theorem parties_eq_of_pairs
    (distinct : [options.seller, options.buyer, options.arbiter, options.server].Nodup)
    (pairs : ∀ set : SignerSet, ∃ set' : SignerSet,
      set.parties options = set'.parties options') :
    options.seller = options'.seller ∧ options.buyer = options'.buyer ∧
      options.arbiter = options'.arbiter := by
  simp only [List.nodup_cons, List.mem_cons, List.not_mem_nil, or_false, not_or] at distinct
  obtain ⟨⟨sellerBuyer, sellerArbiter, _⟩, ⟨buyerArbiter, _⟩, _⟩ := distinct
  obtain ⟨first, sellerWithArbiter⟩ := pairs .sellerArbiter
  obtain ⟨second, buyerWithArbiter⟩ := pairs .buyerArbiter
  obtain ⟨third, sellerWithBuyer⟩ := pairs .sellerBuyer
  simp only [SignerSet.parties] at sellerWithArbiter buyerWithArbiter sellerWithBuyer
  cases first <;> cases second <;> cases third <;> grind

/-- **The leaves determine the options.** -/
theorem options_eq_of_leafScripts_perm (builds : BuildsScripts B)
    (valid : options.validate = .ok ())
    (perm : (options.leafScripts B).Perm (options'.leafScripts B)) : options = options' := by
  obtain ⟨distinct, _⟩ := EscrowOptions.validate_eq_ok_iff.mp valid
  have leaf (policy : LeafPolicy) :
      ∃ policy' : LeafPolicy, policy.script B options = policy'.script B options' := by
    rw [leafScripts_eq_map, leafScripts_eq_map] at perm
    obtain ⟨policy', _, same⟩ :=
      List.mem_map.mp (perm.subset (List.mem_map_of_mem policy.mem_all))
    exact ⟨policy', same.symm⟩
  have pairs (set : SignerSet) : ∃ set' : SignerSet,
      set.parties options = set'.parties options' := by
    obtain ⟨policy', same⟩ := leaf ⟨.collaborative, set⟩
    exact ⟨policy'.set, (LeafPolicy.script_inj builds same).2.1⟩
  obtain ⟨seller, buyer, arbiter⟩ := parties_eq_of_pairs distinct pairs
  obtain ⟨_, collaborative⟩ := leaf ⟨.collaborative, .sellerBuyer⟩
  obtain ⟨_, unilateral⟩ := leaf ⟨.unilateral, .sellerBuyer⟩
  have server := (LeafPolicy.script_inj builds collaborative).2.2.1 rfl
  have delay := (LeafPolicy.script_inj builds unilateral).2.2.2 rfl
  cases options
  cases options'
  simp_all

/-- Contracts with one output have the same leaves, or break the hash functions. -/
theorem leafScripts_perm_or_breaks (trees : BuildsTrees B T hashing tweak)
    (contract contract' : EscrowContract B T)
    (same : contract.scriptPubkey = contract'.scriptPubkey) :
    (contract.options.leafScripts B).Perm (contract'.options.leafScripts B) ∨
      Breaks B hashing tweak (contract.commitment hashing) (contract'.commitment hashing) := by
  have key := EscrowContract.outputKey_of_scriptPubkey same
  rw [contract.outputKey_eq trees, contract'.outputKey_eq trees] at key
  have bound : (_ ∧ _) ∨ Breaks B hashing tweak (contract.commitment hashing)
      (contract'.commitment hashing) := same_or_breaks key
  rcases bound with ⟨_, root⟩ | breaks
  · refine (Merkle.leaves_perm_or_collides _ _ root).imp (fun perm => ?_) .inl
    rw [tapscriptTree, tapscriptTree, Merkle.Tree.leaves_map, Merkle.Tree.leaves_map] at perm
    have scripts := perm.map Prod.fst
    simp only [List.map_map, Function.comp_def, List.map_id'] at scripts
    exact leaves_tree.symm.trans (scripts.trans leaves_tree)
  · exact .inr breaks

/-- **An output belongs to one contract.** Accepted contracts that are paid to the same output
have the same parties in the same roles, the same server and the same delay, or they break the
hash functions. -/
theorem options_eq_of_scriptPubkey (builds : BuildsScripts B)
    (trees : BuildsTrees B T hashing tweak) {contract contract' : EscrowContract B T}
    (accepted : EscrowContract.new B T options network = .ok contract)
    (accepted' : EscrowContract.new B T options' network' = .ok contract')
    (same : contract.scriptPubkey = contract'.scriptPubkey) :
    options = options' ∨
      Breaks B hashing tweak (contract.commitment hashing) (contract'.commitment hashing) := by
  obtain rfl := EscrowContract.new_options accepted
  obtain rfl := EscrowContract.new_options accepted'
  exact (leafScripts_perm_or_breaks trees contract contract' same).imp_left
    (options_eq_of_leafScripts_perm builds contract.valid)

/-- The sample escrow on two networks. -/
theorem options_eq_of_scriptPubkey_sample :
    ∃ contract contract' : EscrowContract Sample.climbing Sample.combining,
      contract.network ≠ contract'.network ∧
      (contract.options = contract'.options ∨
        Breaks Sample.climbing Sample.adding Sample.shifting
          (contract.commitment Sample.adding) (contract'.commitment Sample.adding)) := by
  obtain ⟨contract, accepted⟩ := Sample.exists_contract .regtest
  obtain ⟨contract', accepted'⟩ := Sample.exists_contract .signet
  have built := contract.built
  have built' := contract'.built
  rw [EscrowContract.new_options accepted] at built
  rw [EscrowContract.new_options accepted'] at built'
  have same : contract.scriptPubkey = contract'.scriptPubkey := by
    rw [EscrowContract.scriptPubkey, EscrowContract.scriptPubkey,
      Except.ok.inj (built.symm.trans built')]
  refine ⟨contract, contract', ?_, options_eq_of_scriptPubkey Sample.buildsScripts_climbing
    Sample.buildsTrees_combining contract.new_self contract'.new_self same⟩
  rw [EscrowContract.new_network accepted, EscrowContract.new_network accepted']
  decide

end ArkadeEscrow
