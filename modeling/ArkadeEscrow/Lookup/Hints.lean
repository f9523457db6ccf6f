import ArkadeEscrow.Lookup.Reference

/-!
# The contract as a hint

A caller asks with a contract of the template and, for a refresh, with the amounts that it
remembers. Neither matters: what a VTXO is resolved to depends on the template and on what the
server lists (`lookups_hint_independent`). The contract only says in which order the
candidates are tried, and its own key is one that the server announces anyway.
-/

set_option autoImplicit false

namespace ArkadeEscrow
namespace Lookup

open Batch Refresh

variable {L : BatchLib} {A : ArkLib L} {B : BitcoinLib} {T : TaprootLib}
variable {overflowChecks : Bool} {clock : Option Nat} {client : EscrowClient A}
variable {contract contract' : EscrowContract B T}

/-- What the server lists does not depend on the order in which it is asked for addresses. -/
def ListsSets (client : EscrowClient A) : Prop :=
  ∀ addresses addresses', (∀ address, address ∈ addresses ↔ address ∈ addresses') →
    client.listVtxos addresses = client.listVtxos addresses'

/-- Two contracts of one template, with servers that are announced. -/
structure Interchangeable (client : EscrowClient A) (contract contract' : EscrowContract B T) :
    Prop where
  template : EscrowContract.SameTemplate contract contract'
  distinct : DistinctScripts contract
  announced : ∀ info, serverInfo client.serverInfo = .ok info →
    contract.options.server ∈ announcedKeys info.signerPk.xOnly info.deprecatedSigners
  announced' : ∀ info, serverInfo client.serverInfo = .ok info →
    contract'.options.server ∈ announcedKeys info.signerPk.xOnly info.deprecatedSigners

/-- The same is listed, or nothing is for the same reason. -/
theorem listCandidateVtxos_same (interchangeable : Interchangeable client contract contract')
    (lists : ListsSets client) :
    (∃ e, listCandidateVtxos clock client contract = .error e ∧
      listCandidateVtxos clock client contract' = .error e) ∨
    ∃ info vtxoList, serverInfo client.serverInfo = .ok info ∧
      listCandidateVtxos clock client contract = .ok
        (info, candidateContracts contract info.signerPk.xOnly info.deprecatedSigners, vtxoList) ∧
      listCandidateVtxos clock client contract' = .ok
        (info, candidateContracts contract' info.signerPk.xOnly info.deprecatedSigners,
          vtxoList) := by
  rw [listCandidateVtxos, listCandidateVtxos]
  cases connected : serverInfo client.serverInfo with
  | error e => exact .inl ⟨e, rfl, rfl⟩
  | ok info =>
      have candidates := candidates_same interchangeable.template
        (interchangeable.announced info connected) (interchangeable.announced' info connected)
      have listed := lists
        ((candidateContracts contract info.signerPk.xOnly info.deprecatedSigners).map (address A))
        ((candidateContracts contract' info.signerPk.xOnly info.deprecatedSigners).map (address A))
        fun here => by simp only [List.mem_map, candidates]
      cases vtxos : client.listVtxos
          ((candidateContracts contract' info.signerPk.xOnly info.deprecatedSigners).map
            (address A)) with
      | error e =>
          refine .inl ⟨e.context "listing VTXOs", ?_, ?_⟩
          · show (withContext _ _).bind _ = _
            rw [listed, vtxos]
            rfl
          · show (withContext _ _).bind _ = _
            rw [vtxos]
            rfl
      | ok vtxos' =>
          refine .inr ⟨info, A.newVtxoList clock info.dust vtxos', rfl, ?_, ?_⟩
          · show (withContext _ _).bind _ = _
            rw [listed, vtxos]
            rfl
          · show (withContext _ _).bind _ = _
            rw [vtxos]
            rfl

/-- **A VTXO that is to be spent is resolved in the same way.** -/
theorem resolveSpendableEscrowVtxo_same
    (interchangeable : Interchangeable client contract contract') (lists : ListsSets client)
    (outpoint : OutPoint) :
    resolveSpendableEscrowVtxo clock client contract outpoint =
      resolveSpendableEscrowVtxo clock client contract' outpoint := by
  rw [resolveSpendableEscrowVtxo, resolveSpendableEscrowVtxo]
  rcases @listCandidateVtxos_same L A B T clock client contract contract' interchangeable lists with
    ⟨e, failed, failed'⟩ | ⟨info, vtxoList, connected, listed, listed'⟩
  · rw [failed, failed']
  · rw [listed, listed', Results.ok_bind, Results.ok_bind]
    refine bind_congr fun vtxo => ?_
    rw [contractForScript_same interchangeable.template interchangeable.distinct
      (interchangeable.announced info connected) (interchangeable.announced' info connected)]

/-- **VTXOs that are to be refreshed are resolved in the same way**, whatever else is requested
of them than their outpoints. -/
theorem resolveRefreshVtxos_same (interchangeable : Interchangeable client contract contract')
    (lists : ListsSets client) {vtxos vtxos' : List RefreshVtxo}
    (outpoints : vtxos.map (·.outpoint) = vtxos'.map (·.outpoint)) :
    resolveRefreshVtxos clock client contract vtxos =
      resolveRefreshVtxos clock client contract' vtxos' := by
  have requests (candidates : List (EscrowContract B T)) (allUnspent : List A.Vtxo)
      (requested : List RefreshVtxo) :
      requested.mapM (resolveRefreshVtxo candidates allUnspent) =
        (requested.map (·.outpoint)).mapM fun outpoint =>
          resolveRefreshVtxo candidates allUnspent ⟨outpoint, ⟨0⟩, false⟩ := by
    rw [List.mapM_map]
    rfl
  rw [resolveRefreshVtxos, resolveRefreshVtxos]
  rcases @listCandidateVtxos_same L A B T clock client contract contract' interchangeable lists with
    ⟨e, failed, failed'⟩ | ⟨info, vtxoList, connected, listed, listed'⟩
  · rw [failed, failed']
    rfl
  · have resolve (requested : RefreshVtxo) :
        resolveRefreshVtxo (candidateContracts contract info.signerPk.xOnly info.deprecatedSigners)
          (A.allUnspent vtxoList) requested =
        resolveRefreshVtxo (candidateContracts contract' info.signerPk.xOnly info.deprecatedSigners)
          (A.allUnspent vtxoList) requested := by
      rw [resolveRefreshVtxo, resolveRefreshVtxo]
      refine bind_congr fun vtxo => ?_
      rw [contractForScript_same interchangeable.template interchangeable.distinct
        (interchangeable.announced info connected) (interchangeable.announced' info connected)]
    rw [listed, listed', Results.ok_bind, Results.ok_bind]
    dsimp only
    rw [requests, requests, outpoints]
    simp only [resolve]

/-! ## What a refresh consumes -/

/-- The inputs of the two intents that a refresh prepares. -/
def refreshIntentInputs (clock : Option Nat) (client : EscrowClient A)
    (contract : EscrowContract B T) (vtxos : List RefreshVtxo) (signerSet : SignerSet) :
    Except Error (List IntentInput) := do
  let (_, inputs) ← resolveRefreshVtxos clock client contract vtxos
  buildIntentInputs inputs signerSet

/-- The input is a listed VTXO, spent by the leaf of the signer set of a contract of the
template that has the listed script. -/
structure SpendsListed (contract : EscrowContract B T) (signerSet : SignerSet)
    (listed : List A.Vtxo) (requested : RefreshVtxo) (input : IntentInput) : Prop where
  outpoint : input.outpoint = requested.outpoint
  spends : ∃ vtxo ∈ listed, ∃ owner : EscrowContract B T,
    EscrowContract.SameTemplate owner contract ∧ vtxo.outpoint = requested.outpoint ∧
      owner.scriptPubkey = vtxo.script ∧ input.witnessUtxo = ⟨vtxo.amount, vtxo.script⟩ ∧
      input.tapscripts = owner.tapscripts ∧ input.isSwept = vtxo.isSwept ∧
      input.spendInfo.1 = signerSet.script B owner.options ∧
      owner.controlBlock (signerSet.script B owner.options) = .ok input.spendInfo.2

theorem spendsListed_of_resolved {candidates : List (EscrowContract B T)} {listed : List A.Vtxo}
    {signerSet : SignerSet} {requested : RefreshVtxo} {resolved : RefreshInput B T}
    {input : IntentInput}
    (template : ∀ candidate ∈ candidates, EscrowContract.SameTemplate candidate contract)
    (found : resolveRefreshVtxo candidates listed requested = .ok resolved)
    (made : intentInput signerSet resolved = .ok input) :
    SpendsListed contract signerSet listed requested input := by
  obtain ⟨vtxo, first, found⟩ := Results.bind_eq_ok_iff.mp found
  obtain ⟨owner, script, found⟩ := Results.bind_eq_ok_iff.mp found
  obtain ⟨block, committed, made⟩ := Results.bind_eq_ok_iff.mp made
  cases found
  cases made
  have first := orError_eq_ok_iff.mp first
  have outpoint : vtxo.outpoint = requested.outpoint := by simpa using List.find?_some first
  obtain ⟨member, script⟩ := contractForScript_eq_ok script
  refine ⟨outpoint, vtxo, List.mem_of_find?_eq_some first, owner, template owner member, outpoint,
    script, ?_, rfl, rfl, rfl, committed⟩
  exact congrArg (TxOut.mk vtxo.amount) script

/-- **Every input of a refresh spends what the server lists.** -/
theorem refreshIntentInputs_spend {vtxos : List RefreshVtxo} {signerSet : SignerSet}
    {inputs : List IntentInput}
    (made : refreshIntentInputs clock client contract vtxos signerSet = .ok inputs) :
    ∃ info candidates vtxoList,
      listCandidateVtxos clock client contract = .ok (info, candidates, vtxoList) ∧
      List.Forall₂ (SpendsListed contract signerSet (A.allUnspent vtxoList)) vtxos inputs := by
  obtain ⟨⟨info, resolved⟩, found, made⟩ := Results.bind_eq_ok_iff.mp made
  obtain ⟨⟨info', candidates, vtxoList⟩, listed, found⟩ := Results.bind_eq_ok_iff.mp found
  obtain ⟨resolved', found, same⟩ := Results.bind_eq_ok_iff.mp found
  cases same
  refine ⟨_, _, _, listed, ?_⟩
  have template : ∀ candidate ∈ candidates, EscrowContract.SameTemplate candidate contract := by
    obtain ⟨info'', _, listed⟩ := Results.bind_eq_ok_iff.mp listed
    obtain ⟨vtxos', _, same⟩ := Results.bind_eq_ok_iff.mp listed
    cases same
    exact fun candidate member => sameTemplate_of_mem member
  exact Results.forall₂_compose (Results.mapM_eq_ok_iff.mp found) (Results.mapM_eq_ok_iff.mp made)
    fun requested resolved input first second => spendsListed_of_resolved template first second

/-- **The output of a refresh is the same.** -/
theorem refreshOutput_same (same : EscrowContract.SameTemplate contract contract')
    (info : A.ServerInfo) (total : Amount) :
    refreshOutput contract info total = refreshOutput contract' info total := by
  rw [refreshOutput, refreshOutput, same.withServer]

/-! ## The requirement -/

/-- What does not depend on the hint, nor on the amounts that are requested. -/
structure HintIndependent (client : EscrowClient A) (contract contract' : EscrowContract B T) :
    Prop where
  resolved : ∀ clock outpoint, resolveSpendableEscrowVtxo clock client contract outpoint =
    resolveSpendableEscrowVtxo clock client contract' outpoint
  release : ∀ overflowChecks clock outpoint buyerDest feeOutputs signerSet,
    buildReleaseForOutpoint overflowChecks clock client contract outpoint buyerDest feeOutputs
        signerSet =
      buildReleaseForOutpoint overflowChecks clock client contract' outpoint buyerDest feeOutputs
        signerSet
  refund : ∀ clock outpoint sellerDest signerSet,
    buildRefundForOutpoint clock client contract outpoint sellerDest signerSet =
      buildRefundForOutpoint clock client contract' outpoint sellerDest signerSet
  inputs : ∀ clock vtxos vtxos' signerSet, vtxos.map (·.outpoint) = vtxos'.map (·.outpoint) →
    refreshIntentInputs clock client contract vtxos signerSet =
      refreshIntentInputs clock client contract' vtxos' signerSet
  spends : ∀ clock vtxos signerSet inputs,
    refreshIntentInputs clock client contract vtxos signerSet = .ok inputs →
    ∃ info candidates vtxoList,
      listCandidateVtxos clock client contract = .ok (info, candidates, vtxoList) ∧
      List.Forall₂ (SpendsListed contract signerSet (A.allUnspent vtxoList)) vtxos inputs
  output : ∀ info total,
    refreshOutput (A := A) contract info total = refreshOutput contract' info total
  refresh : ∀ overflowChecks clock vtxos vtxos' signerSet refreshCosignerPk,
    vtxos.map (·.outpoint) = vtxos'.map (·.outpoint) →
    prepareRefresh overflowChecks clock client contract vtxos signerSet refreshCosignerPk =
      prepareRefresh overflowChecks clock client contract' vtxos' signerSet refreshCosignerPk

/-! ## A rotated key -/

namespace Sample

theorem interchangeable : Interchangeable Sample.client oldContract newContract where
  template := ⟨rfl, rfl⟩
  distinct := distinctScripts_sample _ _
  announced info' connected := by
    obtain rfl : info = info' := Except.ok.inj connected
    simp [announcedKeys, info, oldContract, contract]
  announced' info' connected := by
    obtain rfl : info = info' := Except.ok.inj connected
    simp [announcedKeys, info, newContract, contract]

theorem listsSets : ListsSets Sample.client := by
  intro addresses addresses' same
  refine congrArg Except.ok (List.filter_congr fun vtxo _ => ?_)
  rw [Bool.eq_iff_iff, List.any_eq_true, List.any_eq_true]
  exact exists_congr fun address => and_congr_left fun _ => same address

end Sample

/-- **Lookups do not depend on the hint**, among contracts of one template whose servers are
announced. -/
theorem lookups_hint_independent (interchangeable : Interchangeable client contract contract')
    (lists : ListsSets client) : HintIndependent client contract contract' where
  resolved clock outpoint := resolveSpendableEscrowVtxo_same interchangeable lists outpoint
  release overflowChecks clock outpoint buyerDest feeOutputs signerSet := by
    rw [buildReleaseForOutpoint, buildReleaseForOutpoint,
      resolveSpendableEscrowVtxo_same interchangeable lists]
  refund clock outpoint sellerDest signerSet := by
    rw [buildRefundForOutpoint, buildRefundForOutpoint,
      resolveSpendableEscrowVtxo_same interchangeable lists]
  inputs clock vtxos vtxos' signerSet outpoints := by
    rw [refreshIntentInputs, refreshIntentInputs,
      resolveRefreshVtxos_same interchangeable lists outpoints]
  spends clock vtxos signerSet inputs made := refreshIntentInputs_spend made
  output info total := refreshOutput_same interchangeable.template info total
  refresh overflowChecks clock vtxos vtxos' signerSet refreshCosignerPk outpoints := by
    rw [prepareRefresh, prepareRefresh, resolveRefreshVtxos_same interchangeable lists outpoints]
    simp only [prepareRefreshResolved, refreshOutput_same interchangeable.template]

theorem lookups_hint_independent_sample :
    HintIndependent Sample.client Sample.oldContract Sample.newContract :=
  lookups_hint_independent Sample.interchangeable Sample.listsSets

end Lookup
end ArkadeEscrow
