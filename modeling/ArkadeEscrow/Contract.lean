import ArkadeEscrow.Bitcoin
import ArkadeEscrow.Data.Results
import ArkadeEscrow.Tapscript.Machine

/-!
# The escrow contract

Any two of seller, buyer and arbiter can spend: with the server at once, or alone after a
delay. Each way is a leaf script of a taproot tree. A contract is only built from options
that `validate` accepts (`EscrowOptions.validate_eq_ok_iff`), and it carries the proof of it.
`TaprootLib` collects the functions of the `bitcoin` crate that build the tree.
-/

set_option autoImplicit false

namespace ArkadeEscrow

/-- `Sequence::is_relative_lock_time`. -/
def isRelativeLockTime (sequence : UInt32) : Bool := sequence &&& 0x80000000 == 0

/-- Configuration for a 2-of-3 escrow contract. -/
structure EscrowOptions where
  seller : XOnlyPublicKey
  buyer : XOnlyPublicKey
  arbiter : XOnlyPublicKey
  server : XOnlyPublicKey
  unilateralExitDelay : UInt32
  deriving DecidableEq

/-- The two parties that spend together. -/
inductive SignerSet where
  | buyerArbiter | sellerArbiter | sellerBuyer
  deriving DecidableEq

/-- `bitcoin::Network`. -/
inductive Network where
  | bitcoin | testnet | testnet4 | signet | regtest
  deriving DecidableEq

/-- `TaprootBuilder` and `TaprootSpendInfo`. -/
structure TaprootLib where
  Builder : Type
  SpendInfo : Type
  new : Builder
  addLeaf : Builder → UInt8 → ScriptBuf → Option Builder
  finalize : Builder → XOnlyPublicKey → Option SpendInfo
  controlBlock : SpendInfo → ScriptBuf × LeafVersion → Option ControlBlock
  outputKey : SpendInfo → XOnlyPublicKey
  /-- `ark_core::UNSPENDABLE_KEY`. -/
  unspendableKey : XOnlyPublicKey

variable (B : BitcoinLib) (T : TaprootLib)

/-! ## Scripts -/

/-- The two parties and the server sign. -/
def collaborative3of3 (pkA pkB server : XOnlyPublicKey) : ScriptBuf :=
  B.pushXOnlyKey pkA ++ Tapscript.opCheckSigVerify ::
    (B.pushXOnlyKey pkB ++ Tapscript.opCheckSigVerify ::
      (B.pushXOnlyKey server ++ [Tapscript.opCheckSig]))

/-- The two parties sign after the delay. -/
def unilateral2of2 (delay : UInt32) (pkA pkB : XOnlyPublicKey) : ScriptBuf :=
  B.pushInt delay.toNat ++ Tapscript.opCheckSequenceVerify :: Tapscript.opDrop ::
    (B.pushXOnlyKey pkA ++ Tapscript.opCheckSigVerify ::
      (B.pushXOnlyKey pkB ++ [Tapscript.opCheckSig]))

namespace EscrowOptions

variable (options : EscrowOptions)

/-- All keys are distinct, and the delay is a relative lock-time other than zero. -/
def validate : Except Error Unit := do
  let keys : Vector XOnlyPublicKey 4 :=
    #v[options.seller, options.buyer, options.arbiter, options.server]
  (List.finRange 4).forM fun i => ((List.finRange 4).filter fun j => i < j).forM fun j =>
    ensure (keys.get i != keys.get j) "all public keys must be distinct"
  ensure (options.unilateralExitDelay != 0) "unilateral_exit_delay must be non-zero"
  ensure (isRelativeLockTime options.unilateralExitDelay)
    "unilateral_exit_delay must be a BIP68 relative lock-time"

def sellerArbiterScript : ScriptBuf :=
  collaborative3of3 B options.seller options.arbiter options.server

def buyerArbiterScript : ScriptBuf :=
  collaborative3of3 B options.buyer options.arbiter options.server

def sellerBuyerScript : ScriptBuf :=
  collaborative3of3 B options.seller options.buyer options.server

def unilateralSellerArbiterScript : ScriptBuf :=
  unilateral2of2 B options.unilateralExitDelay options.seller options.arbiter

def unilateralBuyerArbiterScript : ScriptBuf :=
  unilateral2of2 B options.unilateralExitDelay options.buyer options.arbiter

def unilateralSellerBuyerScript : ScriptBuf :=
  unilateral2of2 B options.unilateralExitDelay options.seller options.buyer

/-- The six leaves, in tree order. -/
def leafScripts : List ScriptBuf :=
  [options.sellerArbiterScript B, options.buyerArbiterScript B, options.sellerBuyerScript B,
    options.unilateralSellerArbiterScript B, options.unilateralBuyerArbiterScript B,
    options.unilateralSellerBuyerScript B]

end EscrowOptions

/-- The collaborative leaf of a signer set. -/
def SignerSet.script (set : SignerSet) (options : EscrowOptions) : ScriptBuf :=
  match set with
  | .buyerArbiter => options.buyerArbiterScript B
  | .sellerArbiter => options.sellerArbiterScript B
  | .sellerBuyer => options.sellerBuyerScript B

/-! ## The taproot tree -/

inductive TreeNode where
  | leaf (script : ScriptBuf) (weight : UInt32)
  | branch (left right : TreeNode) (weight : UInt32)

def TreeNode.weight : TreeNode → UInt32
  | .leaf _ weight => weight
  | .branch _ _ weight => weight

/-- Combine the two lightest nodes until one is left. -/
def combine (nodes : List TreeNode) (some : nodes ≠ []) : TreeNode :=
  match _sorted : (nodes.mergeSort fun a b => decide (b.weight ≤ a.weight)).reverse with
  | b :: a :: rest =>
      combine (rest.reverse ++ [.branch a b (a.weight + b.weight)]) (by simp)
  | _ => nodes.head some
termination_by nodes.length
decreasing_by
  have lengths := congrArg List.length _sorted
  simp only [List.length_reverse, List.length_mergeSort, List.length_cons] at lengths
  simp only [List.length_append, List.length_reverse, List.length_singleton]
  omega

def addToBuilder (builder : T.Builder) (depth : UInt8) : TreeNode → Except Error T.Builder
  | .leaf script _ =>
      orError s!"failed to add leaf at depth {depth}" (T.addLeaf builder depth script)
  | .branch left right _ => do
      let builder ← addToBuilder builder (depth + 1) left
      addToBuilder builder (depth + 1) right

def buildTaproot (options : EscrowOptions) : Except Error T.SpendInfo := do
  let nodes := (options.leafScripts B).map fun script => TreeNode.leaf script 1
  let root := combine nodes (by simp [nodes, EscrowOptions.leafScripts])
  let builder ← addToBuilder T T.new 0 root
  orError "failed to finalize taproot tree" (T.finalize builder T.unspendableKey)

/-! ## Contracts -/

/-- Options that were validated, with the tree that was built from them. -/
structure EscrowContract where
  options : EscrowOptions
  spendInfo : T.SpendInfo
  network : Network
  valid : options.validate = .ok ()
  built : buildTaproot B T options = .ok spendInfo

namespace EscrowContract

def new (options : EscrowOptions) (network : Network) : Except Error (EscrowContract B T) :=
  match valid : options.validate with
  | .error e => .error e
  | .ok () =>
      match built : buildTaproot B T options with
      | .error e => .error e
      | .ok spendInfo => .ok ⟨options, spendInfo, network, valid, built⟩

variable {B T}

/-- All 6 tapscripts in tree order. -/
def tapscripts (contract : EscrowContract B T) : List ScriptBuf := contract.options.leafScripts B

/-- The control block for spending by a leaf script. -/
def controlBlock (contract : EscrowContract B T) (script : ScriptBuf) : Except Error ControlBlock :=
  orError "script not found in taproot tree"
    (T.controlBlock contract.spendInfo (script, leafVersionTapScript))

/-- The contract with another server. -/
def withServer (contract : EscrowContract B T) (server : XOnlyPublicKey) :
    Except Error (EscrowContract B T) :=
  new B T { contract.options with server := server } contract.network

/-- `OP_PUSHNUM_1` and the output key. -/
def scriptPubkey (contract : EscrowContract B T) : ScriptBuf :=
  0x51 :: 0x20 :: (T.outputKey contract.spendInfo).serialize

theorem new_options {options : EscrowOptions} {network : Network} {contract : EscrowContract B T}
    (accepted : new B T options network = .ok contract) : contract.options = options := by
  rw [new] at accepted
  split at accepted
  · cases accepted
  · split at accepted
    · cases accepted
    · cases accepted
      rfl

theorem new_network {options : EscrowOptions} {network : Network} {contract : EscrowContract B T}
    (accepted : new B T options network = .ok contract) : contract.network = network := by
  rw [new] at accepted
  split at accepted
  · cases accepted
  · split at accepted
    · cases accepted
    · cases accepted
      rfl

/-- A contract is what its options make. -/
theorem new_self (contract : EscrowContract B T) :
    new B T contract.options contract.network = .ok contract := by
  rw [new]
  split
  · next e invalid =>
      rw [contract.valid] at invalid
      cases invalid
  · split
    · next e failed =>
        rw [contract.built] at failed
        cases failed
    · next spendInfo built =>
        have same : contract.spendInfo = spendInfo :=
          Except.ok.inj (contract.built.symm.trans built)
        subst same
        rfl

/-- Valid options with a tree make a contract. -/
theorem exists_new_of_built {options : EscrowOptions} (valid : options.validate = .ok ())
    (built : ∃ spendInfo, buildTaproot B T options = .ok spendInfo) (network : Network) :
    ∃ contract, new B T options network = .ok contract := by
  obtain ⟨spendInfo, built⟩ := built
  exact ⟨_, new_self ⟨options, spendInfo, network, valid, built⟩⟩

@[simp] theorem withServer_self (contract : EscrowContract B T) :
    contract.withServer contract.options.server = .ok contract :=
  contract.new_self

theorem withServer_options {contract contract' : EscrowContract B T} {server : XOnlyPublicKey}
    (made : contract.withServer server = .ok contract') :
    contract'.options = { contract.options with server := server } :=
  new_options made

/-- The two contracts differ at most in the server. -/
def SameTemplate (contract contract' : EscrowContract B T) : Prop :=
  contract.options = { contract'.options with server := contract.options.server } ∧
    contract.network = contract'.network

/-- **A template and a server make one contract.** -/
theorem SameTemplate.withServer {contract contract' : EscrowContract B T}
    (same : SameTemplate contract contract') (server : XOnlyPublicKey) :
    contract.withServer server = contract'.withServer server := by
  obtain ⟨options, network⟩ := same
  rw [EscrowContract.withServer, EscrowContract.withServer, network, options]

end EscrowContract

/-! ## What validation means -/

theorem isRelativeLockTime_eq_true_iff {sequence : UInt32} :
    isRelativeLockTime sequence = true ↔
      Tapscript.Locktime.hasFlag sequence.toNat Tapscript.Locktime.disableFlag = false := by
  have masked : isRelativeLockTime sequence = true ↔ sequence.toNat &&& 2 ^ 31 = 0 := by
    simp [isRelativeLockTime, ← UInt32.toNat_inj]
  rw [masked, Nat.and_two_pow, Tapscript.Locktime.disableFlag,
    Tapscript.Locktime.hasFlag_two_pow]
  cases sequence.toNat.testBit 31 <;> simp

/-- **The options that are accepted.** The delay is tested as a whole, not by the part that
consensus looks at. -/
theorem EscrowOptions.validate_eq_ok_iff {options : EscrowOptions} :
    options.validate = .ok () ↔
      [options.seller, options.buyer, options.arbiter, options.server].Nodup ∧
      options.unilateralExitDelay ≠ 0 ∧
      Tapscript.Locktime.hasFlag options.unilateralExitDelay.toNat
        Tapscript.Locktime.disableFlag = false := by
  let keys : Vector XOnlyPublicKey 4 :=
    #v[options.seller, options.buyer, options.arbiter, options.server]
  have distinct : ((List.finRange 4).forM fun i =>
        ((List.finRange 4).filter fun j => i < j).forM fun j =>
          ensure (keys.get i != keys.get j) "all public keys must be distinct") = .ok () ↔
      [options.seller, options.buyer, options.arbiter, options.server].Nodup := by
    simp only [Results.forM_eq_ok_iff, ensure_eq_ok_iff, List.mem_filter, List.mem_finRange,
      decide_eq_true_eq, true_and, bne_iff_ne, true_implies]
    simp only [ne_eq, Fin.forall_fin_succ, Fin.isValue, not_lt_zero, IsEmpty.forall_iff,
      Fin.succ_zero_eq_one, Fin.succ_one_eq_two, Fin.reduceSucc, and_true, true_and, Fin.reduceLT,
      forall_const, lt_self_iff_false, not_true_eq_false, and_self, List.nodup_cons, List.mem_cons,
      List.not_mem_nil, or_false, not_or, not_false_eq_true, List.nodup_nil, keys]
    exact Iff.rfl
  rw [← distinct, ← isRelativeLockTime_eq_true_iff]
  constructor
  · intro accepted
    obtain ⟨⟨⟩, pairs, accepted⟩ := Results.bind_eq_ok_iff.mp accepted
    obtain ⟨⟨⟩, some, accepted⟩ := Results.bind_eq_ok_iff.mp accepted
    exact ⟨pairs, by simpa using some, by simpa using accepted⟩
  · intro parts
    rcases parts with ⟨pairs, some, relative⟩
    refine Results.bind_eq_ok_iff.mpr ⟨(), pairs, ?_⟩
    exact Results.bind_eq_ok_iff.mpr ⟨(), by simpa using some, by simpa using relative⟩

/-- The keys that the parties chose. -/
def EscrowOptions.parties (options : EscrowOptions) : List XOnlyPublicKey :=
  [options.seller, options.buyer, options.arbiter]

/-- **Another server is accepted unless it collides with a party.** -/
theorem EscrowOptions.validate_server_eq_ok_iff {options : EscrowOptions}
    (valid : options.validate = .ok ()) {server : XOnlyPublicKey} :
    { options with server := server }.validate = .ok () ↔ server ∉ options.parties := by
  obtain ⟨distinct, nonzero, relative⟩ := validate_eq_ok_iff.mp valid
  have together : (options.parties ++ [options.server]).Nodup := distinct
  have parties : options.parties.Nodup := together.of_append_left
  have keys : [options.seller, options.buyer, options.arbiter, server].Nodup ↔
      server ∉ options.parties := by
    show (options.parties ++ [server]).Nodup ↔ _
    rw [← List.concat_eq_append, List.nodup_concat, and_iff_left parties]
  rw [validate_eq_ok_iff, keys]
  exact and_iff_left ⟨nonzero, relative⟩

namespace EscrowContract

variable {B : BitcoinLib} {T : TaprootLib}

/-- What is built with another server has passed validation. -/
theorem server_not_mem_parties {contract candidate : EscrowContract B T}
    {server : XOnlyPublicKey} (made : contract.withServer server = .ok candidate) :
    server ∉ contract.options.parties := by
  have valid := candidate.valid
  rw [withServer_options made] at valid
  exact (EscrowOptions.validate_server_eq_ok_iff contract.valid).mp valid

end EscrowContract

end ArkadeEscrow
