import ArkadeEscrow.Lookup.Reference

/-!
# What is paid out is what was locked up

A release splits the escrow amount between the fees and the buyer, and a refresh moves the sum
of its inputs to one output. Both add up 64-bit amounts without a check, so a release conserves
value just when the fees that it pays are worth less than 2^64 (`release_conserves_iff`).
-/

set_option autoImplicit false

namespace ArkadeEscrow
namespace Lookup

open Batch Refresh Distinct

variable {L : BatchLib} {A : ArkLib L} {B : BitcoinLib} {T : TaprootLib}

/-! ## A release -/

/-- Who is paid by a release. -/
def releaseReceivers (buyerDest : A.Address) (plan : ReleasePlan A.Address) :
    List (SendReceiver A.Address) :=
  ⟨buyerDest, plan.buyerAmount⟩ ::
    plan.effectiveFeeOutputs.map fun feeOutput => ⟨feeOutput.address, feeOutput.amount⟩

/-- A planned release pays all receivers of the plan with one transaction. -/
theorem buildReleaseTx_eq_ok {overflowChecks : Bool} {contract : EscrowContract B T}
    {escrowVtxo : EscrowVtxo} {buyerDest : A.Address} {feeOutputs : List (FeeOutput A.Address)}
    {signerSet : SignerSet} {serverInfo : A.ServerInfo} {tx : EscrowTransaction}
    (built : buildReleaseTx overflowChecks contract escrowVtxo buyerDest feeOutputs signerSet
      serverInfo = some (.ok tx)) :
    ∃ input plan, vtxoInput contract escrowVtxo signerSet = .ok input ∧
      planRelease overflowChecks A.amountText escrowVtxo.amount feeOutputs .offchain
        serverInfo.dust = some (.ok plan) ∧
      A.buildOffchainTransactions (releaseReceivers buyerDest plan) buyerDest [input] serverInfo =
        .ok (tx.arkTx, tx.checkpointTxs) := by
  obtain ⟨input, made, built⟩ := Checked.bind_eq_ok_iff.mp built
  obtain ⟨plan, planned, built⟩ := Checked.bind_eq_ok_iff.mp built
  have built := Checked.liftExcept_eq_ok_iff.mp built
  obtain ⟨⟨arkTx, checkpointTxs⟩, transactions, same⟩ := Results.bind_eq_ok_iff.mp built
  cases same
  exact ⟨input, plan, Checked.liftExcept_eq_ok_iff.mp made, planned,
    withContext_eq_ok_iff.mp transactions⟩

variable (A B T) in
/-- **A release conserves value**: no sum panics or wraps, it is planned just when the escrow
has the fees that are paid and the dust, and then nothing of it is lost. -/
structure ReleaseConserves (overflowChecks : Bool) (total : Amount)
    (feeOutputs : List (FeeOutput A.Address)) (mode : ReleaseMode) (dust : Amount) : Prop where
  finishes : planRelease overflowChecks A.amountText total feeOutputs mode dust ≠ none
  exact : ∃ totalFee, Amount.sum overflowChecks ((paidFees mode dust feeOutputs).map (·.amount)) =
    some totalFee ∧ totalFee.sat.toNat = paidWorth mode dust feeOutputs
  planned :
    (∃ plan, planRelease overflowChecks A.amountText total feeOutputs mode dust =
      some (.ok plan)) ↔ paidWorth mode dust feeOutputs + dust.sat.toNat ≤ total.sat.toNat
  split : ∀ plan, planRelease overflowChecks A.amountText total feeOutputs mode dust =
      some (.ok plan) →
    plan.buyerAmount.sat.toNat + worth (plan.effectiveFeeOutputs.map (·.amount)) =
        total.sat.toNat ∧
      plan.effectiveFeeOutputs = paidFees mode dust feeOutputs ∧
      plan.discardedFeeOutputs = droppedFees mode dust feeOutputs
  received : mode = .offchain → ∀ (contract : EscrowContract B T) (escrowVtxo : EscrowVtxo)
      (buyerDest : A.Address) (signerSet : SignerSet) (serverInfo : A.ServerInfo)
      (tx : EscrowTransaction), escrowVtxo.amount = total → serverInfo.dust = dust →
    buildReleaseTx overflowChecks contract escrowVtxo buyerDest feeOutputs signerSet serverInfo =
      some (.ok tx) →
    ∃ input plan, planRelease overflowChecks A.amountText total feeOutputs .offchain dust =
        some (.ok plan) ∧
      A.buildOffchainTransactions (releaseReceivers buyerDest plan) buyerDest [input] serverInfo =
        .ok (tx.arkTx, tx.checkpointTxs) ∧
      worth ((releaseReceivers buyerDest plan).map (·.amount)) = escrowVtxo.amount.sat.toNat

/-- Two fees whose sum wraps to nothing. -/
def Sample.wrapping : List (FeeOutput ArkLib.reference.Address) :=
  List.replicate 2 ⟨(.regtest, ⟨6⟩, ⟨6⟩), ⟨0x8000000000000000⟩⟩

/-- The fees of the sample are planned on top of the whole amount. -/
theorem not_always_release_conserves :
    ¬∀ (overflowChecks : Bool) (total : Amount) (feeOutputs : List (FeeOutput
        ArkLib.reference.Address)) (mode : ReleaseMode) (dust : Amount),
      ReleaseConserves ArkLib.reference BitcoinLib.reference TaprootLib.committing overflowChecks
        total feeOutputs mode dust := by
  intro conserves
  have planned : planRelease false ArkLib.reference.amountText ⟨1000⟩ Sample.wrapping .offchain
      ⟨330⟩ = some (.ok ⟨⟨1000⟩, ⟨1000⟩, Sample.wrapping, []⟩) :=
    planRelease_eq_ok_iff.mpr ⟨⟨0⟩, by simp [Amount.sum, Amount.add, Sample.wrapping, paidFees],
      rfl, by decide, rfl, rfl, rfl⟩
  have split := (conserves false ⟨1000⟩ Sample.wrapping .offchain ⟨330⟩).split _ planned
  exact absurd split.1 (by simp [Sample.wrapping])

/-- The receivers get what the plan splits. -/
theorem worth_releaseReceivers (buyerDest : A.Address) (plan : ReleasePlan A.Address) :
    worth ((releaseReceivers buyerDest plan).map (·.amount)) =
      plan.buyerAmount.sat.toNat + worth (plan.effectiveFeeOutputs.map (·.amount)) := by
  rw [releaseReceivers, List.map_cons, worth_cons, List.map_map]
  rfl

/-- **A release conserves value just when its fees can be added up.** -/
theorem release_conserves_iff (overflowChecks : Bool) (total : Amount)
    (feeOutputs : List (FeeOutput A.Address)) (mode : ReleaseMode) (dust : Amount) :
    ReleaseConserves A B T overflowChecks total feeOutputs mode dust ↔
      paidWorth mode dust feeOutputs < 2 ^ 64 := by
  constructor
  · intro conserves
    exact (Amount.sum_exact_iff overflowChecks _).mp conserves.exact
  · intro fits
    obtain ⟨totalFee, added, exact⟩ := (Amount.sum_exact_iff overflowChecks _).mpr fits
    have split : ∀ plan, planRelease overflowChecks A.amountText total feeOutputs mode dust =
          some (.ok plan) →
        plan.buyerAmount.sat.toNat + worth (plan.effectiveFeeOutputs.map (·.amount)) =
            total.sat.toNat ∧
          plan.effectiveFeeOutputs = paidFees mode dust feeOutputs ∧
          plan.discardedFeeOutputs = droppedFees mode dust feeOutputs := by
      intro plan planned
      obtain ⟨totalFee', added', left, _, _, effective, discarded⟩ :=
        planRelease_eq_ok_iff.mp planned
      cases added.symm.trans added'
      refine ⟨?_, effective, discarded⟩
      rw [effective, ← exact, Nat.add_comm]
      exact left
    constructor
    case finishes =>
      rw [Ne, planRelease_eq_none_iff, added]
      exact Option.some_ne_none totalFee
    case exact => exact ⟨totalFee, added, exact⟩
    case planned =>
      constructor
      · rintro ⟨plan, planned⟩
        obtain ⟨totalFee', added', left, enough, _⟩ := planRelease_eq_ok_iff.mp planned
        cases added.symm.trans added'
        rw [paidWorth, ← exact]
        omega
      · intro enough
        rw [paidWorth, ← exact] at enough
        have le : totalFee.sat ≤ total.sat := UInt64.le_iff_toNat_le.mpr (by omega)
        have left : totalFee.sat.toNat + (total.sat - totalFee.sat).toNat = total.sat.toNat := by
          rw [UInt64.toNat_sub_of_le _ _ le]
          omega
        exact ⟨⟨total, ⟨total.sat - totalFee.sat⟩, _, _⟩, planRelease_eq_ok_iff.mpr
          ⟨totalFee, added, left, by dsimp only; omega, rfl, rfl, rfl⟩⟩
    case split => exact split
    case received =>
      rintro rfl contract escrowVtxo buyerDest signerSet serverInfo tx rfl rfl built
      obtain ⟨input, plan, _, planned, transactions⟩ := buildReleaseTx_eq_ok built
      refine ⟨input, plan, planned, transactions, ?_⟩
      rw [worth_releaseReceivers]
      exact (split plan planned).1

/-! ## A refresh -/

/-- The amount that is listed under an outpoint. -/
def listedSat (listed : List A.Vtxo) (outpoint : OutPoint) : Nat :=
  (listed.find? fun v => v.outpoint == outpoint).elim 0 fun v => v.amount.sat.toNat

def listedWorth (listed : List A.Vtxo) (outpoints : List OutPoint) : Nat :=
  (outpoints.map (listedSat listed)).sum

theorem listedWorth_eq_add (listed : List A.Vtxo) (outpoints : List OutPoint) :
    listedWorth listed outpoints =
      listedWorth listed (distinct outpoints) + listedWorth listed (repeats outpoints) := by
  rw [listedWorth, listedWorth, listedWorth, ← List.sum_append, ← List.map_append]
  exact ((distinct_append_repeats outpoints).symm.map _).sum_eq

variable (A) in
/-- The proof of a register intent spends the given inputs, after the one that commits to the
message, and has the given outputs. -/
def TakesAsGiven : Prop :=
  ∀ inputs outputs cosignerPk forfeitAddress dust delegate, outputs ≠ [] →
    A.prepareDelegatePsbts inputs outputs cosignerPk forfeitAddress dust = .ok delegate →
    inputOutpoints delegate.intent = inputs.map (·.outpoint) ∧
      delegate.intent.proof.unsignedTx.output = outputs.map fun | .offchain output => output

theorem worth_eq_sum (amounts : List Amount) :
    worth amounts = (amounts.map fun amount => amount.sat.toNat).sum := by
  induction amounts with
  | nil => rfl
  | cons amount amounts ih => rw [worth_cons, ih, List.map_cons, List.sum_cons]

/-- **A refresh pays out what it consumes**: its one output is worth what the VTXOs that it
spends are listed with, each counted once. -/
def PaysOutConsumed (listed : List A.Vtxo) (refresh : RefreshIntent L) : Prop :=
  ∃ output, refresh.intent.proof.unsignedTx.output = [output] ∧
    output.value.sat.toNat = listedWorth listed (distinct (inputOutpoints refresh.intent))

/-- The requested VTXOs are worth less than 2^64, and those that are requested again nothing,
up to a multiple of 2^64. -/
structure CountsOnce (listed : List A.Vtxo) (requested : List OutPoint) : Prop where
  fits : listedWorth listed (distinct requested) < 2 ^ 64
  again : 2 ^ 64 ∣ listedWorth listed (repeats requested)

variable {overflowChecks : Bool} {clock : Option Nat} {client : EscrowClient A}
variable {contract : EscrowContract B T} {vtxos : List RefreshVtxo} {signerSet : SignerSet}
variable {refreshCosignerPk : PublicKey} {refresh : RefreshIntent L}

/-- A VTXO is resolved to what is listed under its outpoint. -/
theorem resolveRefreshVtxo_eq_ok {candidates : List (EscrowContract B T)} {listed : List A.Vtxo}
    {requested : RefreshVtxo} {input : RefreshInput B T}
    (resolved : resolveRefreshVtxo candidates listed requested = .ok input) :
    input.vtxo.outpoint = requested.outpoint ∧
      input.vtxo.amount.sat.toNat = listedSat listed requested.outpoint := by
  obtain ⟨vtxo, first, resolved⟩ := Results.bind_eq_ok_iff.mp resolved
  obtain ⟨owner, _, same⟩ := Results.bind_eq_ok_iff.mp resolved
  cases same
  have first := orError_eq_ok_iff.mp first
  constructor
  · simpa using List.find?_some first
  · rw [listedSat, first]
    rfl

theorem intentInput_outpoint {input : RefreshInput B T} {made : IntentInput}
    (ok : intentInput signerSet input = .ok made) : input.vtxo.outpoint = made.outpoint := by
  obtain ⟨_, _, same⟩ := Results.bind_eq_ok_iff.mp ok
  cases same
  rfl

/-- **What a prepared refresh spends and pays out.** -/
theorem prepareRefresh_eq_ok (takes : TakesAsGiven A) {info : A.ServerInfo}
    {candidates : List (EscrowContract B T)} {vtxoList : A.VtxoList}
    (listing : listCandidateVtxos clock client contract = .ok (info, candidates, vtxoList))
    (prepared : prepareRefresh overflowChecks clock client contract vtxos signerSet
      refreshCosignerPk = some (.ok refresh)) :
    inputOutpoints refresh.intent = vtxos.map (·.outpoint) ∧
    ∃ output, refresh.intent.proof.unsignedTx.output = [output] ∧
      output.value.sat.toNat =
        listedWorth (A.allUnspent vtxoList) (vtxos.map (·.outpoint)) % 2 ^ 64 := by
  obtain ⟨⟨info', inputs⟩, resolved, prepared⟩ := Checked.bind_eq_ok_iff.mp prepared
  have resolved := Checked.liftExcept_eq_ok_iff.mp resolved
  rw [resolveRefreshVtxos, listing, Results.ok_bind] at resolved
  obtain ⟨inputs', found, same⟩ := Results.bind_eq_ok_iff.mp resolved
  cases same
  have found := Results.mapM_eq_ok_iff.mp found
  have outpoints := Results.map_eq_map_of_forall₂ found
    (f := fun requested => requested.outpoint) (g := fun input => input.vtxo.outpoint)
    fun _ _ ok => (resolveRefreshVtxo_eq_ok ok).1.symm
  have amounts := Results.map_eq_map_of_forall₂ found
    (f := fun requested => listedSat (A.allUnspent vtxoList) requested.outpoint)
    (g := fun input => input.vtxo.amount.sat.toNat)
    fun _ _ ok => (resolveRefreshVtxo_eq_ok ok).2.symm
  obtain ⟨intentInputs, made, prepared⟩ := Checked.bind_eq_ok_iff.mp prepared
  obtain ⟨total, added, prepared⟩ := Checked.bind_eq_ok_iff.mp prepared
  obtain ⟨output, paid, prepared⟩ := Checked.bind_eq_ok_iff.mp prepared
  obtain ⟨deletion, _, prepared⟩ := Checked.bind_eq_ok_iff.mp prepared
  obtain ⟨delegate, delegated, same⟩ := Checked.bind_eq_ok_iff.mp prepared
  cases same
  have made := Results.mapM_eq_ok_iff.mp (Checked.liftExcept_eq_ok_iff.mp made)
  have delegated := ofDisplay_eq_ok_iff.mp
    (withContext_eq_ok_iff.mp (Checked.liftExcept_eq_ok_iff.mp delegated))
  obtain ⟨spent, outputs⟩ := takes _ _ _ _ _ _ (List.cons_ne_nil _ _) delegated
  constructor
  · rw [outpoints]
    refine spent.trans (Eq.symm ?_)
    exact Results.map_eq_map_of_forall₂ made fun _ _ ok => intentInput_outpoint ok
  · obtain ⟨_, _, same⟩ := Results.bind_eq_ok_iff.mp (Checked.liftExcept_eq_ok_iff.mp paid)
    cases same
    refine ⟨_, outputs, ?_⟩
    have exact := Amount.toNat_sum overflowChecks (inputs.map (·.vtxo.amount))
    rw [Checked.liftOption_eq_ok_iff.mp added, Option.map_some] at exact
    have worths : worth (inputs.map (·.vtxo.amount)) =
        listedWorth (A.allUnspent vtxoList) (vtxos.map (·.outpoint)) := by
      rw [worth_eq_sum, listedWorth, List.map_map, List.map_map]
      exact congrArg List.sum amounts.symm
    split at exact
    · cases exact
    · rw [← worths]
      exact Option.some.inj exact

/-! ### A VTXO that is requested twice -/

namespace Sample

/-- A proof whose first input commits to the message. -/
def proof (inputs : List IntentInput) (outputs : List IntentOutput) : Intent BatchLib.reference :=
  let proof := intentProof inputs outputs
  let messageInput : TxIn := ⟨⟨⟨0⟩, 0⟩, [], 0, []⟩
  ⟨{ unsignedTx := { proof.unsignedTx with input := messageInput :: proof.unsignedTx.input }
     inputs := ⟨none, none, ∅, ∅⟩ :: proof.inputs }, ()⟩

/-- The reference library, with such proofs. -/
noncomputable def proving : ArkLib BatchLib.reference := { ArkLib.reference with
  makeIntent inputs outputs _ := .ok (proof inputs outputs)
  prepareDelegatePsbts inputs outputs cosignerPk _ _ := .ok ⟨proof inputs outputs, [], cosignerPk⟩ }

noncomputable def held : proving.Vtxo := ⟨⟨⟨1⟩, 0⟩, ⟨1000⟩, oldContract.scriptPubkey, false, ()⟩

def requested : RefreshVtxo := ⟨⟨⟨1⟩, 0⟩, ⟨1000⟩, false⟩

/-- The server lists the one VTXO to everyone. -/
noncomputable def lister : EscrowClient proving where
  serverInfo := ⟨false, some info⟩
  listVtxos _ := .ok [held]

theorem takesAsGiven_proving : TakesAsGiven proving := by
  intro inputs outputs cosignerPk forfeitAddress dust delegate some prepared
  cases prepared
  refine ⟨?_, rfl⟩
  simp [inputOutpoints, proof, intentProof, Function.comp_def]

theorem listing_lister :
    listCandidateVtxos (some 0) lister oldContract = .ok (info,
      candidateContracts oldContract info.signerPk.xOnly info.deprecatedSigners, [held]) := rfl

/-- A leaf of a contract has a control block. -/
theorem exists_controlBlock (contract : EscrowContract BitcoinLib.reference TaprootLib.committing)
    {script : ScriptBuf} (leaf : script ∈ contract.options.leafScripts BitcoinLib.reference) :
    ∃ block, contract.controlBlock script = .ok block := by
  obtain ⟨spendInfo, built, leaves⟩ := buildTaproot_committing contract.options
  have same : contract.spendInfo = spendInfo := Except.ok.inj (contract.built.symm.trans built)
  obtain ⟨entry, member, here⟩ := List.mem_map.mp (leaves.mem_iff.mpr leaf)
  have known : (spendInfo.1.any fun entry => entry.2 == script) = true :=
    List.any_eq_true.mpr ⟨entry, member, beq_iff_eq.mpr here⟩
  refine ⟨⟨leafVersionTapScript, false, spendInfo.2, []⟩, ?_⟩
  rw [EscrowContract.controlBlock, same, orError_eq_ok_iff]
  exact if_pos known

/-- The VTXO can be requested any number of times. -/
theorem exists_prepareRefresh {vtxos : List RefreshVtxo}
    (funds : ∀ vtxo ∈ vtxos, vtxo.outpoint = held.outpoint) :
    ∃ refresh, prepareRefresh false (some 0) lister oldContract vtxos .sellerBuyer ⟨⟨6⟩, false⟩ =
      some (.ok refresh) := by
  have resolves : ∀ vtxo ∈ vtxos, ∃ input, resolveRefreshVtxo
      (candidateContracts oldContract info.signerPk.xOnly info.deprecatedSigners) [held] vtxo =
        .ok input := by
    intro vtxo member
    have listed : ([held].find? fun v => v.outpoint == vtxo.outpoint) = some held :=
      List.find?_cons_of_pos (beq_iff_eq.mpr (funds vtxo member).symm)
    refine ⟨⟨oldContract, ⟨held.outpoint, held.amount, held.isSwept⟩⟩,
      Results.bind_eq_ok_iff.mpr ⟨held, orError_eq_ok_iff.mpr listed, ?_⟩⟩
    exact Results.bind_eq_ok_iff.mpr ⟨oldContract, contractForScript_self, rfl⟩
  obtain ⟨inputs, resolved⟩ := Results.exists_mapM_eq_ok_iff.mpr resolves
  have spends : ∀ input ∈ inputs, ∃ made, intentInput .sellerBuyer input = .ok made := by
    intro input _
    have leaf : SignerSet.sellerBuyer.script BitcoinLib.reference input.contract.options ∈
        input.contract.options.leafScripts BitcoinLib.reference := by
      simp [EscrowOptions.leafScripts, SignerSet.script]
    obtain ⟨block, known⟩ := exists_controlBlock input.contract leaf
    exact ⟨_, Results.bind_eq_ok_iff.mpr ⟨block, known, rfl⟩⟩
  obtain ⟨intentInputs, made⟩ := Results.exists_mapM_eq_ok_iff.mpr spends
  obtain ⟨total, added⟩ : ∃ total, Amount.sum false (inputs.map (·.vtxo.amount)) = some total := by
    obtain ⟨total, added, _⟩ :=
      Option.map_eq_some_iff.mp (Amount.toNat_sum false (inputs.map (·.vtxo.amount)))
    exact ⟨total, added⟩
  have rotated : oldContract.withServer info.signerPk.xOnly = .ok newContract :=
    newContract.new_self
  let output : IntentOutput :=
    .offchain ⟨total, proving.toP2trScriptPubkey (address proving newContract)⟩
  refine ⟨⟨proof intentInputs [output], [], ⟨⟨6⟩, false⟩, some (proof intentInputs [])⟩,
    Checked.bind_eq_ok_iff.mpr ⟨(info, inputs), Checked.liftExcept_eq_ok_iff.mpr ?_, ?_⟩⟩
  · rw [resolveRefreshVtxos, listing_lister, Results.ok_bind]
    exact Results.bind_eq_ok_iff.mpr ⟨inputs, resolved, rfl⟩
  refine Checked.bind_eq_ok_iff.mpr ⟨intentInputs, Checked.liftExcept_eq_ok_iff.mpr made, ?_⟩
  refine Checked.bind_eq_ok_iff.mpr ⟨total, Checked.liftOption_eq_ok_iff.mpr added, ?_⟩
  refine Checked.bind_eq_ok_iff.mpr ⟨output, Checked.liftExcept_eq_ok_iff.mpr
    (Results.bind_eq_ok_iff.mpr ⟨newContract, rotated, rfl⟩), ?_⟩
  refine Checked.bind_eq_ok_iff.mpr ⟨proof intentInputs [], rfl, ?_⟩
  exact Checked.bind_eq_ok_iff.mpr ⟨⟨proof intentInputs [output], [], ⟨⟨6⟩, false⟩⟩, rfl, rfl⟩

end Sample

/-- **A refresh pays out what it consumes just when each VTXO is counted once.** -/
theorem refresh_pays_out_iff (takes : TakesAsGiven A) {info : A.ServerInfo}
    {candidates : List (EscrowContract B T)} {vtxoList : A.VtxoList}
    (listing : listCandidateVtxos clock client contract = .ok (info, candidates, vtxoList))
    (prepared : prepareRefresh overflowChecks clock client contract vtxos signerSet
      refreshCosignerPk = some (.ok refresh)) :
    PaysOutConsumed (A.allUnspent vtxoList) refresh ↔
      CountsOnce (A.allUnspent vtxoList) (vtxos.map (·.outpoint)) := by
  obtain ⟨spent, output, outputs, value⟩ := prepareRefresh_eq_ok takes listing prepared
  rw [listedWorth_eq_add] at value
  constructor
  · rintro ⟨output', outputs', value'⟩
    cases List.singleton_inj.mp (outputs.symm.trans outputs')
    rw [spent] at value'
    exact ⟨by omega, by omega⟩
  · rintro ⟨fits, again⟩
    refine ⟨output, outputs, ?_⟩
    rw [spent]
    omega

theorem refresh_pays_out_iff_sample :
    ∃ refresh, prepareRefresh false (some 0) Sample.lister Sample.oldContract [Sample.requested]
        .sellerBuyer ⟨⟨6⟩, false⟩ = some (.ok refresh) ∧
      (PaysOutConsumed (A := Sample.proving) [Sample.held] refresh ↔
        CountsOnce (A := Sample.proving) [Sample.held] [Sample.requested.outpoint]) := by
  have funds : ∀ vtxo ∈ [Sample.requested], vtxo.outpoint = Sample.held.outpoint := by
    simp [Sample.requested, Sample.held]
  obtain ⟨refresh, prepared⟩ := Sample.exists_prepareRefresh funds
  exact ⟨refresh, prepared,
    refresh_pays_out_iff Sample.takesAsGiven_proving Sample.listing_lister prepared⟩

/-- What is requested twice is paid out twice. -/
theorem not_always_refresh_pays_out :
    ∃ refresh, prepareRefresh false (some 0) Sample.lister Sample.oldContract
        [Sample.requested, Sample.requested] .sellerBuyer ⟨⟨6⟩, false⟩ = some (.ok refresh) ∧
      ¬PaysOutConsumed (A := Sample.proving) [Sample.held] refresh := by
  have funds : ∀ vtxo ∈ [Sample.requested, Sample.requested],
      vtxo.outpoint = Sample.held.outpoint := by
    simp [Sample.requested, Sample.held]
  obtain ⟨refresh, prepared⟩ := Sample.exists_prepareRefresh funds
  obtain ⟨spent, output, outputs, value⟩ :=
    prepareRefresh_eq_ok Sample.takesAsGiven_proving Sample.listing_lister prepared
  refine ⟨refresh, prepared, ?_⟩
  rintro ⟨output', outputs', value'⟩
  cases List.singleton_inj.mp (outputs.symm.trans outputs')
  rw [spent, value] at value'
  have listed : listedSat (A := Sample.proving) [Sample.held] Sample.held.outpoint = 1000 := by
    rw [listedSat, List.find?_cons_of_pos (by simp)]
    rfl
  have requested : [Sample.requested, Sample.requested].map (·.outpoint) =
      [Sample.held.outpoint, Sample.held.outpoint] := rfl
  have once : distinct [Sample.held.outpoint, Sample.held.outpoint] =
      [Sample.held.outpoint] := by
    simp [distinct, pushUnique]
  have paid : listedWorth (A := Sample.proving) [Sample.held]
      [Sample.held.outpoint, Sample.held.outpoint] = 2000 := by
    simp [listedWorth, listed]
  have consumed : listedWorth (A := Sample.proving) [Sample.held] [Sample.held.outpoint] =
      1000 := by
    simp [listedWorth, listed]
  rw [requested, once] at value'
  have value' : 2000 % 2 ^ 64 = 1000 := paid ▸ consumed ▸ value'
  omega

end Lookup
end ArkadeEscrow
