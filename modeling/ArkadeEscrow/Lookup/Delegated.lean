import ArkadeEscrow.Lookup.Found
import ArkadeEscrow.Lookup.Renewal

/-!
# The delegated release

Before there were refreshes, recoverable VTXOs were released in a batch of their own:
`prepareReleaseDelegate` pays the buyer and the fees directly from the intent. A fee below the
dust limit cannot be paid there and falls to the buyer.

Everything is paid out, and nothing below the dust limit, unless the amounts that are added up
wrap (`delegated_release_conserves_iff`). But the amounts are those of the caller, and so is the
contract: unlike a refresh it spends by the leaf of the contract that it is given, which is the
right one just when no VTXO was funded under another server key (`delegated_release_agrees_iff`).
-/

set_option autoImplicit false

namespace ArkadeEscrow
namespace Lookup

open Batch Refresh Distinct

variable {L : BatchLib} {A : ArkLib L} {B : BitcoinLib} {T : TaprootLib}

/-- `delegate::DelegateVtxo`. -/
structure DelegateVtxo where
  outpoint : OutPoint
  amount : Amount
  isSwept : Bool

/-- `EscrowClient::find_escrow_vtxos`. -/
def findEscrowVtxos (V : VtxoLib A) (clock : Option Nat) (client : EscrowClient A)
    (contract : EscrowContract B T) : Except Error (List DelegateVtxo × Bool) := do
  let (vtxos, anyRecoverable) ← findRefreshVtxos V clock client contract
  return (vtxos.map fun v => ⟨v.outpoint, v.amount, v.isSwept⟩, anyRecoverable)

/-- `delegate::build_intent_inputs`. -/
def delegateIntentInputs (vtxos : List DelegateVtxo) (spendScript : ScriptBuf)
    (controlBlock : ControlBlock) (tapscripts : List ScriptBuf) (scriptPubkey : ScriptBuf) :
    List IntentInput :=
  vtxos.map fun vtxo =>
    { outpoint := vtxo.outpoint
      witnessUtxo := ⟨vtxo.amount, scriptPubkey⟩
      tapscripts
      spendInfo := (spendScript, controlBlock)
      isSwept := vtxo.isSwept }

/-- Who is paid by a delegated release. -/
def releaseOutputs (buyerDest : A.Address) (releasePlan : ReleasePlan A.Address) :
    List IntentOutput :=
  .offchain ⟨releasePlan.buyerAmount, A.toP2trScriptPubkey buyerDest⟩ ::
    releasePlan.effectiveFeeOutputs.map fun feeOutput =>
      .offchain ⟨feeOutput.amount, A.toP2trScriptPubkey feeOutput.address⟩

def prepareReleaseDelegate (overflowChecks : Bool) (contract : EscrowContract B T)
    (vtxos : List DelegateVtxo) (buyerDest : A.Address) (feeOutputs : List (FeeOutput A.Address))
    (signerSet : SignerSet) (delegateCosignerPk : PublicKey) (serverInfo : A.ServerInfo) :
    Checked (Delegate L) := do
  let spendScript := signerSet.script B contract.options
  let controlBlock ← contract.controlBlock spendScript
  let intentInputs := delegateIntentInputs vtxos spendScript controlBlock contract.tapscripts
    contract.scriptPubkey
  let totalEscrowAmount ← Amount.sum overflowChecks (vtxos.map (·.amount))
  let releasePlan ← planRelease overflowChecks A.amountText totalEscrowAmount feeOutputs .delegate
    serverInfo.dust
  -- the fees that are discarded are only logged
  withContext "preparing delegate PSBTs" (ofDisplay (A.prepareDelegatePsbts intentInputs
    (releaseOutputs buyerDest releasePlan) delegateCosignerPk serverInfo.forfeitAddress
    serverInfo.dust))

/-! ## What is paid out -/

variable {overflowChecks : Bool} {contract : EscrowContract B T} {vtxos : List DelegateVtxo}
  {buyerDest : A.Address} {feeOutputs : List (FeeOutput A.Address)} {signerSet : SignerSet}
  {delegateCosignerPk : PublicKey} {serverInfo : A.ServerInfo} {delegate : Delegate L}

/-- **What a delegated release spends and pays.** -/
theorem prepareReleaseDelegate_eq_ok (takes : TakesAsGiven A)
    (prepared : prepareReleaseDelegate overflowChecks contract vtxos buyerDest feeOutputs signerSet
      delegateCosignerPk serverInfo = some (.ok delegate)) :
    ∃ total plan, Amount.sum overflowChecks (vtxos.map (·.amount)) = some total ∧
      planRelease overflowChecks A.amountText total feeOutputs .delegate serverInfo.dust =
        some (.ok plan) ∧
      inputOutpoints delegate.intent = vtxos.map (·.outpoint) ∧
      delegate.intent.proof.unsignedTx.output =
        (releaseOutputs buyerDest plan).map fun | .offchain output => output := by
  obtain ⟨controlBlock, _, prepared⟩ := Checked.bind_eq_ok_iff.mp prepared
  obtain ⟨total, added, prepared⟩ := Checked.bind_eq_ok_iff.mp prepared
  obtain ⟨plan, planned, prepared⟩ := Checked.bind_eq_ok_iff.mp prepared
  have delegated := ofDisplay_eq_ok_iff.mp
    (withContext_eq_ok_iff.mp (Checked.liftExcept_eq_ok_iff.mp prepared))
  obtain ⟨spent, outputs⟩ := takes _ _ _ _ _ _ (List.cons_ne_nil _ _) delegated
  refine ⟨total, plan, Checked.liftOption_eq_ok_iff.mp added, planned, spent.trans ?_, outputs⟩
  rw [delegateIntentInputs, List.map_map]
  rfl

theorem values_releaseOutputs (plan : ReleasePlan A.Address) :
    ((releaseOutputs buyerDest plan).map fun | .offchain output => output).map (·.value) =
      plan.buyerAmount :: plan.effectiveFeeOutputs.map (·.amount) := by
  rw [releaseOutputs, List.map_cons, List.map_cons, List.map_map, List.map_map]
  rfl

/-- A sum is short of what was added up by a multiple of 2^64. -/
theorem Amount.toNat_of_sum {amounts : List Amount} {total : Amount}
    (added : Amount.sum overflowChecks amounts = some total) :
    total.sat.toNat = worth amounts % 2 ^ 64 := by
  have exact := Amount.toNat_sum overflowChecks amounts
  rw [added, Option.map_some] at exact
  split at exact
  · cases exact
  · exact Option.some.inj exact

/-- No fee that is paid is below the dust limit. -/
theorem dust_le_of_mem_paidFees {Address : Type} {dust : Amount}
    {feeOutputs : List (FeeOutput Address)} {fee : FeeOutput Address}
    (paid : fee ∈ paidFees .delegate dust feeOutputs) : dust.sat.toNat ≤ fee.amount.sat.toNat :=
  UInt64.le_iff_toNat_le.mp (of_decide_eq_true (List.mem_filter.mp paid).2)

/-- **A delegated release pays out what it takes** just when the VTXOs and the fees lose the
same multiple of 2^64 in their sums: in particular when both are worth less. In any case it
spends each VTXO that was given, pays the buyer and the fees that are not below the dust limit,
and nothing below it. -/
theorem delegated_release_conserves_iff (takes : TakesAsGiven A)
    (prepared : prepareReleaseDelegate overflowChecks contract vtxos buyerDest feeOutputs signerSet
      delegateCosignerPk serverInfo = some (.ok delegate)) :
    inputOutpoints delegate.intent = vtxos.map (·.outpoint) ∧
    (∃ buyerAmount, delegate.intent.proof.unsignedTx.output =
      ⟨buyerAmount, A.toP2trScriptPubkey buyerDest⟩ ::
        (paidFees .delegate serverInfo.dust feeOutputs).map fun fee =>
          ⟨fee.amount, A.toP2trScriptPubkey fee.address⟩) ∧
    (∀ output ∈ delegate.intent.proof.unsignedTx.output,
      serverInfo.dust.sat.toNat ≤ output.value.sat.toNat) ∧
    (worth (delegate.intent.proof.unsignedTx.output.map (·.value)) =
        worth (vtxos.map (·.amount)) ↔
      worth (vtxos.map (·.amount)) / 2 ^ 64 =
        paidWorth .delegate serverInfo.dust feeOutputs / 2 ^ 64) := by
  obtain ⟨total, plan, added, planned, spent, outputs⟩ :=
    prepareReleaseDelegate_eq_ok takes prepared
  obtain ⟨totalFee, addedFees, left, enough, _, effective, _⟩ := planRelease_eq_ok_iff.mp planned
  have split : delegate.intent.proof.unsignedTx.output =
      ⟨plan.buyerAmount, A.toP2trScriptPubkey buyerDest⟩ ::
        (paidFees .delegate serverInfo.dust feeOutputs).map fun fee =>
          ⟨fee.amount, A.toP2trScriptPubkey fee.address⟩ := by
    rw [outputs, releaseOutputs, List.map_cons, List.map_map, effective]
    rfl
  refine ⟨spent, ⟨plan.buyerAmount, split⟩, ?_, ?_⟩
  · rw [split]
    refine List.forall_mem_cons.mpr ⟨enough, fun output member => ?_⟩
    obtain ⟨fee, paid, rfl⟩ := List.mem_map.mp member
    exact dust_le_of_mem_paidFees paid
  · have values : worth (delegate.intent.proof.unsignedTx.output.map (·.value)) =
        plan.buyerAmount.sat.toNat + paidWorth .delegate serverInfo.dust feeOutputs := by
      rw [outputs, values_releaseOutputs, worth_cons, effective]
      rfl
    have sum := Amount.toNat_of_sum added
    have sumFees : totalFee.sat.toNat = paidWorth .delegate serverInfo.dust feeOutputs % 2 ^ 64 :=
      Amount.toNat_of_sum addedFees
    rw [values]
    omega

/-! ### A fee below the dust limit -/

namespace Sample

noncomputable section

def buyer : proving.Address := (.regtest, ⟨6⟩, ⟨6⟩)

/-- The first is too small to be paid in a batch. -/
def fees : List (FeeOutput proving.Address) := [⟨buyer, ⟨100⟩⟩, ⟨buyer, ⟨400⟩⟩]

def releasePlan : ReleasePlan proving.Address :=
  ⟨⟨1000⟩, ⟨600⟩, [⟨buyer, ⟨400⟩⟩], [⟨buyer, ⟨100⟩⟩]⟩

theorem planned : planRelease false proving.amountText ⟨1000⟩ fees .delegate ⟨330⟩ =
    some (.ok releasePlan) :=
  planRelease_eq_ok_iff.mpr ⟨⟨400⟩, rfl, rfl, by decide, rfl, rfl, rfl⟩

def vtxo : DelegateVtxo := ⟨⟨⟨1⟩, 0⟩, ⟨1000⟩, true⟩

theorem exists_prepareReleaseDelegate : ∃ delegate,
    prepareReleaseDelegate false oldContract [vtxo] buyer fees .sellerBuyer
      ⟨⟨6⟩, false⟩ (Sample.info : proving.ServerInfo) = some (.ok delegate) := by
  have leaf : SignerSet.sellerBuyer.script BitcoinLib.reference oldContract.options ∈
      oldContract.options.leafScripts BitcoinLib.reference := by
    simp [EscrowOptions.leafScripts, SignerSet.script]
  obtain ⟨block, known⟩ := exists_controlBlock oldContract leaf
  let inputs := delegateIntentInputs [vtxo]
    (SignerSet.sellerBuyer.script BitcoinLib.reference oldContract.options) block
    oldContract.tapscripts oldContract.scriptPubkey
  refine ⟨⟨proof inputs (releaseOutputs buyer releasePlan), [], ⟨⟨6⟩, false⟩⟩, ?_⟩
  refine Checked.bind_eq_ok_iff.mpr ⟨block, Checked.liftExcept_eq_ok_iff.mpr known, ?_⟩
  refine Checked.bind_eq_ok_iff.mpr ⟨⟨1000⟩, rfl, ?_⟩
  exact Checked.bind_eq_ok_iff.mpr ⟨releasePlan, planned, rfl⟩

end

end Sample

theorem delegated_release_conserves_iff_sample : ∃ delegate,
    prepareReleaseDelegate false Sample.oldContract [Sample.vtxo] Sample.buyer Sample.fees
      .sellerBuyer ⟨⟨6⟩, false⟩ (Sample.info : Sample.proving.ServerInfo) = some (.ok delegate) ∧
    (worth (delegate.intent.proof.unsignedTx.output.map (·.value)) = worth [⟨1000⟩] ↔
      worth [⟨1000⟩] / 2 ^ 64 =
        paidWorth .delegate Sample.info.dust Sample.fees / 2 ^ 64) := by
  obtain ⟨delegate, prepared⟩ := Sample.exists_prepareReleaseDelegate
  exact ⟨delegate, prepared,
    (delegated_release_conserves_iff Sample.takesAsGiven_proving prepared).2.2.2⟩

/-! ## How it is spent -/

section Agrees

variable {V : VtxoLib A} {clock : Option Nat} {client : EscrowClient A} {info : A.ServerInfo}
  {candidates : List (EscrowContract B T)} {vtxoList : A.VtxoList} {anyRecoverable : Bool}
  {controlBlock : ControlBlock}

/-- The inputs of a delegated release with the contract. -/
def delegatedInputs (contract : EscrowContract B T) (signerSet : SignerSet)
    (controlBlock : ControlBlock) (vtxos : List DelegateVtxo) : List IntentInput :=
  delegateIntentInputs vtxos (signerSet.script B contract.options) controlBlock
    contract.tapscripts contract.scriptPubkey

/-- One of them. -/
def delegatedInput (contract : EscrowContract B T) (signerSet : SignerSet)
    (controlBlock : ControlBlock) (v : A.Vtxo) : IntentInput where
  outpoint := v.outpoint
  witnessUtxo := ⟨v.amount, contract.scriptPubkey⟩
  tapscripts := contract.tapscripts
  spendInfo := (signerSet.script B contract.options, controlBlock)
  isSwept := v.isSwept

theorem scriptPubkey_intentInput {input : RefreshInput B T} {made : IntentInput}
    (spends : intentInput signerSet input = .ok made) :
    made.witnessUtxo.scriptPubkey = input.contract.scriptPubkey := by
  obtain ⟨_, _, same⟩ := Results.bind_eq_ok_iff.mp spends
  cases same
  rfl

theorem findEscrowVtxos_eq_ok (partitions : V.Partitions)
    (found : findEscrowVtxos V clock client contract = .ok (vtxos, anyRecoverable))
    (listing : listCandidateVtxos clock client contract = .ok (info, candidates, vtxoList)) :
    ∃ unspent : List A.Vtxo, unspent.Perm (A.allUnspent vtxoList) ∧
      vtxos = unspent.map fun v => ⟨v.outpoint, v.amount, v.isSwept⟩ := by
  rw [findEscrowVtxos, findRefreshVtxos_eq listing] at found
  cases found
  refine ⟨A.spendableOffchain vtxoList ++ V.recoverable vtxoList,
    (partitions.unspent vtxoList).symm, ?_⟩
  rw [List.map_append, List.map_append, List.map_map, List.map_map]
  rfl

/-- **When a delegated release spends as a refresh would**: just when everything was funded
under the contract that it is given. -/
theorem delegated_release_agrees_iff (partitions : V.Partitions) (pays : PaysToContract A B T)
    (asked : client.ListsAsked candidates)
    (listing : listCandidateVtxos clock client contract = .ok (info, candidates, vtxoList))
    (found : findEscrowVtxos V clock client contract = .ok (vtxos, anyRecoverable))
    (block : contract.controlBlock (signerSet.script B contract.options) = .ok controlBlock) :
    ∃ inputs : List (RefreshInput B T),
      resolveRefreshVtxos clock client contract
        (vtxos.map fun v => ⟨v.outpoint, v.amount, v.isSwept⟩) = .ok (info, inputs) ∧
      (buildIntentInputs inputs signerSet =
          .ok (delegatedInputs contract signerSet controlBlock vtxos) ↔
        ∀ v ∈ A.allUnspent vtxoList, v.script = contract.scriptPubkey) := by
  obtain ⟨unspent, same, rfl⟩ := findEscrowVtxos_eq_ok partitions found listing
  have listed := listing_of_listed partitions pays asked listing
  obtain ⟨inputs, resolved, each⟩ :=
    resolveRefreshVtxos_listed listed listing fun v member => same.mem_iff.mp member
  refine ⟨inputs, by rw [List.map_map]; exact resolved, ?_⟩
  have inputOf : delegatedInputs contract signerSet controlBlock
      (unspent.map fun v => ⟨v.outpoint, v.amount, v.isSwept⟩) =
        unspent.map (delegatedInput contract signerSet controlBlock) := by
    rw [delegatedInputs, delegateIntentInputs, List.map_map]
    rfl
  rw [inputOf, buildIntentInputs, Results.mapM_eq_ok_iff]
  constructor
  · intro made v member
    have scripts : List.Forall₂ (fun (v : A.Vtxo) (made : IntentInput) =>
        made.witnessUtxo.scriptPubkey = v.script) unspent
          (unspent.map (delegatedInput contract signerSet controlBlock)) := by
      refine Results.forall₂_compose each made fun v input made here spends => ?_
      rw [scriptPubkey_intentInput spends]
      exact (contractForScript_eq_ok here.2).2
    rw [List.forall₂_map_right_iff, List.forall₂_same] at scripts
    exact (scripts v (same.mem_iff.mpr member)).symm
  · intro scripts
    rw [List.forall₂_map_right_iff]
    have members : ∀ v ∈ unspent, v.script = contract.scriptPubkey :=
      fun v member => scripts v (same.mem_iff.mp member)
    refine ((List.forall₂_and_left ..).mpr ⟨members, each⟩).flip.imp ?_
    rintro ⟨owner, vtxo⟩ v ⟨script, vtxoEq, owned⟩
    dsimp only at vtxoEq owned
    subst vtxoEq
    rw [script, candidates_of_listed listing, contractForScript_self] at owned
    cases owned
    exact Results.bind_eq_ok_iff.mpr ⟨controlBlock, block, rfl⟩

end Agrees

/-- The sample escrow has one VTXO under each of two server keys. -/
theorem delegated_release_agrees_iff_sample :
    ∃ vtxoList vtxos anyRecoverable controlBlock,
    ∃ inputs : List (RefreshInput BitcoinLib.reference TaprootLib.committing),
      findEscrowVtxos Sample.sweeping (some 0) Sample.answering Sample.oldContract =
        .ok (vtxos, anyRecoverable) ∧
      (buildIntentInputs inputs .sellerBuyer =
          .ok (delegatedInputs Sample.oldContract .sellerBuyer controlBlock vtxos) ↔
        ∀ v ∈ Sample.proving.allUnspent vtxoList, v.script = Sample.oldContract.scriptPubkey) := by
  have leaf : SignerSet.sellerBuyer.script BitcoinLib.reference Sample.oldContract.options ∈
      Sample.oldContract.options.leafScripts BitcoinLib.reference := by
    simp [EscrowOptions.leafScripts, SignerSet.script]
  obtain ⟨block, known⟩ := Sample.exists_controlBlock Sample.oldContract leaf
  obtain ⟨inputs, resolved, agrees⟩ :=
    delegated_release_agrees_iff Sample.partitions_sweeping Sample.paysToContract_proving
      (Sample.listsAsked_answering _) rfl rfl known
  exact ⟨_, _, _, block, inputs, rfl, agrees⟩

end Lookup
end ArkadeEscrow
