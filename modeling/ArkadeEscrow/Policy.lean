import ArkadeEscrow.Leaves
import ArkadeEscrow.Reference

/-!
# What the leaves of a contract demand

A policy is a pair of parties and a way to spend: with the server, or alone after the delay.
Each of the six leaf scripts enforces one policy and each policy is enforced by one leaf
(`leaves_enforce_policies`): whatever the witness stack, the script executes successfully
exactly when the stack is what the policy demands. So no coalition short of two parties can
spend.

The delay of a unilateral leaf is another matter. Consensus compares only its low 16 bits,
and validation looks at the whole number: `unilateral_exit_delayed_iff`.
-/

set_option autoImplicit false

namespace ArkadeEscrow

open Tapscript

/-! ## Keys -/

/-- Numbers with the same lowest bytes agree up to there. -/
theorem mod_eq_of_bytes {n m width : Nat}
    (bytes : ∀ k < width, n / 256 ^ k % 256 = m / 256 ^ k % 256) :
    n % 256 ^ width = m % 256 ^ width := by
  induction width with
  | zero => simp [Nat.mod_one]
  | succ width ih =>
      have lower := ih fun k bound => bytes k (Nat.lt_succ_of_lt bound)
      have top := bytes width (Nat.lt_succ_self width)
      rw [Nat.mod_pow_succ, Nat.mod_pow_succ, lower, top]

theorem XOnlyPublicKey.serialize_injective {a b : XOnlyPublicKey}
    (same : a.serialize = b.serialize) : a = b := by
  have bytes : ∀ k < 32,
      a.coordinate.toNat / 256 ^ k % 256 = b.coordinate.toNat / 256 ^ k % 256 := by
    intro k bound
    have byte := congrFun (List.ofFn_injective same) ⟨31 - k, by omega⟩
    have value := congrArg UInt8.toNat byte
    rw [UInt8.toNat_ofNat', UInt8.toNat_ofNat'] at value
    have position : 31 - (31 - k) = k := by omega
    simpa [position] using value
  have equal := mod_eq_of_bytes bytes
  rw [Nat.mod_eq_of_lt (by simpa using a.coordinate.isLt),
    Nat.mod_eq_of_lt (by simpa using b.coordinate.isLt)] at equal
  cases a
  cases b
  exact congrArg XOnlyPublicKey.mk (BitVec.eq_of_toNat_eq equal)

/-! ## Policies -/

inductive LeafKind where
  | collaborative | unilateral
  deriving DecidableEq

/-- The parties of a signer set, in the order of their signatures. -/
def SignerSet.parties (set : SignerSet) (options : EscrowOptions) :
    XOnlyPublicKey × XOnlyPublicKey :=
  match set with
  | .sellerArbiter => (options.seller, options.arbiter)
  | .buyerArbiter => (options.buyer, options.arbiter)
  | .sellerBuyer => (options.seller, options.buyer)

/-- A way to spend. -/
structure LeafPolicy where
  kind : LeafKind
  set : SignerSet
  deriving DecidableEq

/-- The policies, in the order of the leaves. -/
def LeafPolicy.all : List LeafPolicy :=
  [⟨.collaborative, .sellerArbiter⟩, ⟨.collaborative, .buyerArbiter⟩,
    ⟨.collaborative, .sellerBuyer⟩, ⟨.unilateral, .sellerArbiter⟩, ⟨.unilateral, .buyerArbiter⟩,
    ⟨.unilateral, .sellerBuyer⟩]

/-- The key has signed this spend. -/
def Signs (env : Environment) (key : XOnlyPublicKey) (sig : Bytes) : Prop :=
  env.checkSig sig key.serialize = true

/-- The stack is what the policy demands: the signatures in the order in which the script
consumes them, and for a unilateral leaf a lock-time that passes. -/
def LeafPolicy.Unlocks (policy : LeafPolicy) (options : EscrowOptions) (env : Environment)
    (stack : List Bytes) : Prop :=
  match policy.kind with
  | .collaborative => ∃ sigA sigB sigServer, stack = [sigA, sigB, sigServer] ∧
      Signs env (policy.set.parties options).1 sigA ∧
      Signs env (policy.set.parties options).2 sigB ∧ Signs env options.server sigServer
  | .unilateral => ∃ sigA sigB, stack = [sigA, sigB] ∧
      Signs env (policy.set.parties options).1 sigA ∧
      Signs env (policy.set.parties options).2 sigB ∧
      Locktime.passes env.timing options.unilateralExitDelay.toNat = true

/-- The leaf script enforces the policy. -/
def LeafPolicy.Enforced (policy : LeafPolicy) (options : EscrowOptions) (script : ScriptBuf) :
    Prop :=
  ∀ env stack, executes env script stack = true ↔ policy.Unlocks options env stack

variable {B : BitcoinLib} {T : TaprootLib} {options : EscrowOptions}

/-! ## What the scripts demand -/

theorem executes_collaborative3of3 (builds : BuildsScripts B) {env : Environment}
    {stack : List Bytes} {pkA pkB server : XOnlyPublicKey} :
    executes env (collaborative3of3 B pkA pkB server) stack = true ↔
      ∃ sigA sigB sigServer, stack = [sigA, sigB, sigServer] ∧
        Signs env pkA sigA ∧ Signs env pkB sigB ∧ Signs env server sigServer := by
  rw [executes_iff (decode_collaborative3of3 builds pkA pkB server), start,
    runs_verify pkA.serialize_length]
  constructor
  · intro parts
    rcases parts with ⟨_, _, sigA, _, rfl, signedA, _, ran⟩
    obtain ⟨_, sigB, _, rfl, signedB, _, ran⟩ := (runs_verify pkB.serialize_length).mp ran
    rw [runs_push (by rw [server.serialize_length]; omega)] at ran
    obtain ⟨sigServer, rfl, signedServer, _⟩ :=
      (runs_last_checkSig server.serialize_length).mp ran.2
    exact ⟨sigA, sigB, sigServer, rfl, signedA, signedB, signedServer⟩
  · intro parts
    rcases parts with ⟨sigA, sigB, sigServer, rfl, signedA, signedB, signedServer⟩
    obtain ⟨paysA, shortA⟩ := env.size_of_checkSig signedA
    obtain ⟨paysB, shortB⟩ := env.size_of_checkSig signedB
    obtain ⟨paysServer, shortServer⟩ := env.size_of_checkSig signedServer
    refine ⟨by simp [withinLimits, shortA, shortB, shortServer], by simp, sigA, _, rfl, signedA,
      by omega, ?_⟩
    refine (runs_verify pkB.serialize_length).mpr ⟨by simp, sigB, _, rfl, signedB, ?_, ?_⟩
    · simp only [List.map_cons, List.sum_cons]
      omega
    rw [runs_push (by rw [server.serialize_length]; omega)]
    refine ⟨by simp, (runs_last_checkSig server.serialize_length).mpr
      ⟨sigServer, rfl, signedServer, ?_⟩⟩
    simp only [List.map_cons, List.sum_cons]
    omega

theorem executes_unilateral2of2 (builds : BuildsScripts B) {env : Environment}
    {stack : List Bytes} {delay : UInt32} {pkA pkB : XOnlyPublicKey} :
    executes env (unilateral2of2 B delay pkA pkB) stack = true ↔
      ∃ sigA sigB, stack = [sigA, sigB] ∧ Signs env pkA sigA ∧ Signs env pkB sigB ∧
        Locktime.passes env.timing delay.toNat = true := by
  have short : (Number.encode delay.toNat).length ≤ 520 := by
    have five : (Number.encode delay.toNat).length ≤ 4 + 1 :=
      Number.length_encode_le (by simpa using delay.toNat_lt)
    omega
  rw [executes_iff (decode_unilateral2of2 builds delay pkA pkB), start, runs_push short,
    runs_checkSequenceVerify delay.toNat_lt, runs_drop, runs_verify pkA.serialize_length]
  constructor
  · intro parts
    rcases parts with ⟨_, _, pass, _, sigA, _, rfl, signedA, _, ran⟩
    rw [runs_push (by rw [pkB.serialize_length]; omega)] at ran
    obtain ⟨sigB, rfl, signedB, _⟩ := (runs_last_checkSig pkB.serialize_length).mp ran.2
    exact ⟨sigA, sigB, rfl, signedA, signedB, pass⟩
  · intro parts
    rcases parts with ⟨sigA, sigB, rfl, signedA, signedB, pass⟩
    obtain ⟨paysA, shortA⟩ := env.size_of_checkSig signedA
    obtain ⟨paysB, shortB⟩ := env.size_of_checkSig signedB
    refine ⟨by simp [withinLimits, shortA, shortB], by simp, pass, by simp, sigA, _, rfl, signedA,
      by omega, ?_⟩
    rw [runs_push (by rw [pkB.serialize_length]; omega)]
    refine ⟨by simp, (runs_last_checkSig pkB.serialize_length).mpr ⟨sigB, rfl, signedB, ?_⟩⟩
    simp only [List.map_cons, List.sum_cons]
    omega

/-- The leaf script of a policy. -/
def LeafPolicy.script (B : BitcoinLib) (policy : LeafPolicy) (options : EscrowOptions) :
    ScriptBuf :=
  match policy.kind with
  | .collaborative => policy.set.script B options
  | .unilateral =>
      match policy.set with
      | .sellerArbiter => options.unilateralSellerArbiterScript B
      | .buyerArbiter => options.unilateralBuyerArbiterScript B
      | .sellerBuyer => options.unilateralSellerBuyerScript B

theorem leafScripts_eq_map : options.leafScripts B =
    LeafPolicy.all.map fun policy => policy.script B options := rfl

/-- **The leaf script of a policy enforces it.** -/
theorem LeafPolicy.enforced (builds : BuildsScripts B) (policy : LeafPolicy) :
    policy.Enforced options (policy.script B options) := by
  obtain ⟨kind, set⟩ := policy
  intro env stack
  cases kind with
  | collaborative => cases set <;> exact executes_collaborative3of3 builds
  | unilateral => cases set <;> exact executes_unilateral2of2 builds

/-! ## Telling policies apart -/

/-- A spend that everyone has signed: a key's only signature is its bytes, twice. -/
def signedByAll (timing : Timing) : Environment where
  timing := timing
  checkSig sig key := key.length == 32 && sig == key ++ key
  checkSig_length sig key valid := by
    simp only [Bool.and_eq_true, beq_iff_eq] at valid
    obtain ⟨length, rfl⟩ := valid
    rw [List.length_append]
    omega
  overhead := 0
  other _ _ := none

theorem signs_signedByAll_iff {timing : Timing} {key : XOnlyPublicKey} {sig : Bytes} :
    Signs (signedByAll timing) key sig ↔ sig = key.serialize ++ key.serialize := by
  simp [Signs, signedByAll, key.serialize_length]

/-- The stack that the policy demands of a spend that everyone has signed. -/
def LeafPolicy.stack (policy : LeafPolicy) (options : EscrowOptions) : List Bytes :=
  let signed (key : XOnlyPublicKey) : Bytes := key.serialize ++ key.serialize
  let parties := [signed (policy.set.parties options).1, signed (policy.set.parties options).2]
  match policy.kind with
  | .collaborative => parties ++ [signed options.server]
  | .unilateral => parties

theorem LeafPolicy.unlocks_stack (policy : LeafPolicy) {timing : Timing}
    (pass : Locktime.passes timing options.unilateralExitDelay.toNat = true) :
    policy.Unlocks options (signedByAll timing) (policy.stack options) := by
  obtain ⟨kind, set⟩ := policy
  have signed (key : XOnlyPublicKey) :
      Signs (signedByAll timing) key (key.serialize ++ key.serialize) :=
    signs_signedByAll_iff.mpr rfl
  cases kind with
  | collaborative => exact ⟨_, _, _, rfl, signed _, signed _, signed _⟩
  | unilateral => exact ⟨_, _, rfl, signed _, signed _, pass⟩

/-- The keys of valid options are distinct. -/
theorem SignerSet.parties_injective
    (distinct : [options.seller, options.buyer, options.arbiter, options.server].Nodup)
    {set set' : SignerSet} (same : set.parties options = set'.parties options) : set = set' := by
  simp only [List.nodup_cons, List.mem_cons, List.not_mem_nil, or_false, not_or] at distinct
  obtain ⟨⟨sellerBuyer, sellerArbiter, _⟩, ⟨buyerArbiter, _⟩, _⟩ := distinct
  cases set <;> cases set' <;>
    simp_all [SignerSet.parties, eq_comm]

theorem signature_injective {a b : XOnlyPublicKey}
    (same : a.serialize ++ a.serialize = b.serialize ++ b.serialize) : a = b := by
  have lengths : a.serialize.length = b.serialize.length := by
    rw [a.serialize_length, b.serialize_length]
  exact XOnlyPublicKey.serialize_injective (List.append_inj_left same lengths)

/-- A policy's stack unlocks no other policy. -/
theorem LeafPolicy.eq_of_unlocks
    (distinct : [options.seller, options.buyer, options.arbiter, options.server].Nodup)
    {policy policy' : LeafPolicy} {timing : Timing}
    (unlocks : policy'.Unlocks options (signedByAll timing) (policy.stack options)) :
    policy = policy' := by
  obtain ⟨kind, set⟩ := policy
  obtain ⟨kind', set'⟩ := policy'
  have parties {sigA sigB : Bytes}
      (first : sigA = (set.parties options).1.serialize ++ (set.parties options).1.serialize)
      (second : sigB = (set.parties options).2.serialize ++ (set.parties options).2.serialize)
      (signedA : Signs (signedByAll timing) (set'.parties options).1 sigA)
      (signedB : Signs (signedByAll timing) (set'.parties options).2 sigB) : set = set' := by
    rw [signs_signedByAll_iff] at signedA signedB
    refine SignerSet.parties_injective distinct (Prod.ext ?_ ?_)
    · exact signature_injective (first.symm.trans signedA)
    · exact signature_injective (second.symm.trans signedB)
  cases kind with
  | collaborative =>
      cases kind' with
      | collaborative =>
          obtain ⟨sigA, sigB, _, same, signedA, signedB, _⟩ := unlocks
          simp only [LeafPolicy.stack, List.cons_append, List.nil_append, List.cons.injEq] at same
          rw [parties same.1.symm same.2.1.symm signedA signedB]
      | unilateral =>
          obtain ⟨_, _, same, _⟩ := unlocks
          simp [LeafPolicy.stack] at same
  | unilateral =>
      cases kind' with
      | collaborative =>
          obtain ⟨_, _, _, same, _⟩ := unlocks
          simp [LeafPolicy.stack] at same
      | unilateral =>
          obtain ⟨sigA, sigB, same, signedA, signedB, _⟩ := unlocks
          simp only [LeafPolicy.stack, List.cons.injEq] at same
          rw [parties same.1.symm same.2.1.symm signedA signedB]

/-- A script enforces one policy at most. -/
theorem LeafPolicy.Enforced.unique (valid : options.validate = .ok ()) {script : ScriptBuf}
    {policy policy' : LeafPolicy} (enforced : policy.Enforced options script)
    (enforced' : policy'.Enforced options script) : policy = policy' := by
  obtain ⟨distinct, _, enabled⟩ := EscrowOptions.validate_eq_ok_iff.mp valid
  have unlocks := policy.unlocks_stack (Locktime.passes_exact enabled)
  exact LeafPolicy.eq_of_unlocks distinct
    ((enforced' _ _).mp ((enforced _ _).mpr unlocks))

theorem LeafPolicy.mem_all (policy : LeafPolicy) : policy ∈ LeafPolicy.all := by
  obtain ⟨kind, set⟩ := policy
  cases kind <;> cases set <;> decide

/-- **Each policy has exactly one leaf.** -/
theorem existsUnique_leaf (builds : BuildsScripts B) (valid : options.validate = .ok ())
    (policy : LeafPolicy) : ∃! i : Fin (options.leafScripts B).length,
      policy.Enforced options ((options.leafScripts B).get i) := by
  have at_index (i : Fin (options.leafScripts B).length) :
      (LeafPolicy.all.get i).Enforced options ((options.leafScripts B).get i) := by
    have script : (options.leafScripts B).get i = (LeafPolicy.all.get i).script B options :=
      List.getElem_map (l := LeafPolicy.all) (i := i.val) (h := i.isLt)
        fun policy => LeafPolicy.script B policy options
    rw [script]
    exact LeafPolicy.enforced builds _
  obtain ⟨i, rfl⟩ := List.get_of_mem policy.mem_all
  refine ⟨i, at_index i, fun j enforced => ?_⟩
  have same := enforced.unique valid (at_index j)
  have nodup : LeafPolicy.all.Nodup := by decide
  exact (nodup.get_inj_iff.mp same).symm

/-! ## The two-of-three policy -/

theorem SignerSet.parties_distinct
    (distinct : [options.seller, options.buyer, options.arbiter, options.server].Nodup)
    (set : SignerSet) : (set.parties options).1 ≠ (set.parties options).2 ∧
      (set.parties options).1 ≠ options.server ∧ (set.parties options).2 ≠ options.server := by
  simp only [List.nodup_cons, List.mem_cons, List.not_mem_nil, or_false, not_or] at distinct
  cases set <;> simp_all [SignerSet.parties]

/-- What unlocks a policy is signed by both its parties. -/
theorem LeafPolicy.Unlocks.signed {policy : LeafPolicy} {env : Environment} {stack : List Bytes}
    (unlocks : policy.Unlocks options env stack) :
    ∃ sigA sigB, Signs env (policy.set.parties options).1 sigA ∧
      Signs env (policy.set.parties options).2 sigB := by
  obtain ⟨kind, set⟩ := policy
  cases kind with
  | collaborative =>
      obtain ⟨sigA, sigB, _, _, signedA, signedB, _⟩ := unlocks
      exact ⟨sigA, sigB, signedA, signedB⟩
  | unilateral =>
      obtain ⟨sigA, sigB, _, signedA, signedB, _⟩ := unlocks
      exact ⟨sigA, sigB, signedA, signedB⟩

/-- **The two-of-three policy.** Every leaf of a contract enforces a policy of two different
parties, every policy is enforced by exactly one leaf, and a spend that is signed by nobody
but one party and the server satisfies no leaf. -/
theorem leaves_enforce_policies (builds : BuildsScripts B) {network : Network}
    {contract : EscrowContract B T}
    (accepted : EscrowContract.new B T options network = .ok contract) :
    (∀ script ∈ contract.tapscripts, ∃ policy : LeafPolicy,
      (policy.set.parties options).1 ≠ (policy.set.parties options).2 ∧
      policy.Enforced options script) ∧
    (∀ policy : LeafPolicy, ∃! i : Fin contract.tapscripts.length,
      policy.Enforced options (contract.tapscripts.get i)) ∧
    ∀ (party : XOnlyPublicKey) (env : Environment),
      (∀ key sig, Signs env key sig → key = party ∨ key = options.server) →
      ∀ script ∈ contract.tapscripts, ∀ stack, executes env script stack = false := by
  obtain rfl := EscrowContract.new_options accepted
  obtain ⟨distinct, _⟩ := EscrowOptions.validate_eq_ok_iff.mp contract.valid
  have leaf {script : ScriptBuf} (member : script ∈ contract.tapscripts) :
      ∃ policy : LeafPolicy, policy.Enforced contract.options script := by
    rw [EscrowContract.tapscripts, leafScripts_eq_map] at member
    obtain ⟨policy, _, rfl⟩ := List.mem_map.mp member
    exact ⟨policy, policy.enforced builds⟩
  refine ⟨fun script member => ?_, existsUnique_leaf builds contract.valid, ?_⟩
  · obtain ⟨policy, enforced⟩ := leaf member
    exact ⟨policy, (policy.set.parties_distinct distinct).1, enforced⟩
  · intro party env alone script member stack
    obtain ⟨policy, enforced⟩ := leaf member
    obtain ⟨different, first, second⟩ := policy.set.parties_distinct distinct
    rw [Bool.eq_false_iff]
    intro executed
    obtain ⟨sigA, sigB, signedA, signedB⟩ := ((enforced env stack).mp executed).signed
    have isA := (alone _ _ signedA).resolve_right first
    have isB := (alone _ _ signedB).resolve_right second
    exact different (isA.trans isB.symm)

theorem validate_sample : Sample.options.validate = .ok () :=
  EscrowOptions.validate_eq_ok_iff.mpr ⟨by decide, by decide, by decide⟩

/-- A contract of the sample escrow. -/
theorem leaves_enforce_policies_sample :
    ∃ contract : EscrowContract BitcoinLib.reference TaprootLib.reference,
      EscrowContract.new BitcoinLib.reference TaprootLib.reference Sample.options .regtest =
        .ok contract ∧
      ∀ policy : LeafPolicy, ∃! i : Fin contract.tapscripts.length,
        policy.Enforced Sample.options (contract.tapscripts.get i) := by
  obtain ⟨contract, accepted⟩ := EscrowContract.exists_new BitcoinLib.reference validate_sample
    .regtest
  exact ⟨contract, accepted, (leaves_enforce_policies buildsScripts_reference accepted).2.1⟩

/-! ## The delay -/

/-- The check of the lock-time is the second instruction of a unilateral leaf. -/
theorem passes_unilateral2of2 (builds : BuildsScripts B) {env : Environment} {stack : List Bytes}
    {delay : UInt32} {pkA pkB : XOnlyPublicKey} :
    passes env (unilateral2of2 B delay pkA pkB) stack 2 = true ↔
      withinLimits stack = true ∧ stack.length < 1000 ∧
        Locktime.passes env.timing delay.toNat = true := by
  have short : (Number.encode delay.toNat).length ≤ 520 := by
    have five : (Number.encode delay.toNat).length ≤ 4 + 1 :=
      Number.length_encode_le (by simpa using delay.toNat_lt)
    omega
  rw [passes_iff (decode_unilateral2of2 builds delay pkA pkB), start]
  simp only [List.take_succ_cons, List.take_zero]
  rw [runs_push short, runs_checkSequenceVerify delay.toNat_lt, runs_nil, and_true]

/-- **When the unilateral exit is really delayed.** For an accepted contract: every spend
that gets past the lock-time check of a unilateral leaf waits for at least one block or one
unit of 512 seconds, if and only if the low 16 bits of the delay are not all zero. -/
theorem unilateral_exit_delayed_iff (builds : BuildsScripts B) {network : Network}
    {contract : EscrowContract B T}
    (accepted : EscrowContract.new B T options network = .ok contract) :
    (∀ (set : SignerSet) (env : Environment) (stack : List Bytes),
        passes env (LeafPolicy.script B ⟨.unilateral, set⟩ contract.options) stack 2 = true →
        1 ≤ Locktime.demanded env.timing) ↔
      options.unilateralExitDelay.toNat % 2 ^ 16 ≠ 0 := by
  obtain rfl := EscrowContract.new_options accepted
  obtain ⟨_, _, enabled⟩ := EscrowOptions.validate_eq_ok_iff.mp contract.valid
  have check {set : SignerSet} {env : Environment} {stack : List Bytes} :
      passes env (LeafPolicy.script B ⟨.unilateral, set⟩ contract.options) stack 2 = true ↔
        withinLimits stack = true ∧ stack.length < 1000 ∧
          Locktime.passes env.timing contract.options.unilateralExitDelay.toNat = true := by
    cases set <;> exact passes_unilateral2of2 builds
  rw [← Locktime.units, ← Locktime.forall_passes_demands_iff enabled]
  constructor
  · intro delayed timing pass
    exact delayed .sellerArbiter (signedByAll timing) [] (check.mpr ⟨rfl, by simp, pass⟩)
  · intro demands set env stack passed
    exact demands env.timing (check.mp passed).2.2

/-- A delay of 144 blocks. -/
theorem unilateral_exit_delayed_sample :
    ∃ contract : EscrowContract BitcoinLib.reference TaprootLib.reference,
      EscrowContract.new BitcoinLib.reference TaprootLib.reference Sample.options .regtest =
        .ok contract ∧
      ∀ (set : SignerSet) (env : Environment) (stack : List Bytes),
        passes env (LeafPolicy.script BitcoinLib.reference ⟨.unilateral, set⟩ contract.options)
          stack 2 = true → 1 ≤ Locktime.demanded env.timing := by
  obtain ⟨contract, accepted⟩ := EscrowContract.exists_new BitcoinLib.reference validate_sample
    .regtest
  exact ⟨contract, accepted,
    (unilateral_exit_delayed_iff buildsScripts_reference accepted).mpr (by decide)⟩

/-- The delay `0x00400000`, no units of 512 seconds, is accepted and delays nothing. -/
theorem unilateral_exit_not_always_delayed :
    ¬ ∀ (B : BitcoinLib) (T : TaprootLib) (options : EscrowOptions) (network : Network)
        (contract : EscrowContract B T), BuildsScripts B →
      EscrowContract.new B T options network = .ok contract →
      ∀ (set : SignerSet) (env : Environment) (stack : List Bytes),
        passes env (LeafPolicy.script B ⟨.unilateral, set⟩ contract.options) stack 2 = true →
        1 ≤ Locktime.demanded env.timing := by
  intro always
  let options : EscrowOptions := { Sample.options with unilateralExitDelay := 0x00400000 }
  have valid : options.validate = .ok () :=
    EscrowOptions.validate_eq_ok_iff.mpr ⟨by decide, by decide, by decide⟩
  obtain ⟨contract, accepted⟩ := EscrowContract.exists_new BitcoinLib.reference valid .regtest
  have delayed := always _ _ options .regtest contract buildsScripts_reference accepted
    .sellerArbiter (signedByAll (Locktime.exact 0x00400000)) []
  rw [EscrowContract.new_options accepted] at delayed
  have least := delayed ((passes_unilateral2of2 buildsScripts_reference).mpr
    ⟨rfl, by simp, Locktime.passes_exact (by decide)⟩)
  rw [show (signedByAll (Locktime.exact 0x00400000)).timing = Locktime.exact 0x00400000 from rfl,
    Locktime.demanded_exact (by decide)] at least
  revert least
  decide

end ArkadeEscrow
