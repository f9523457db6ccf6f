import ArkadeEscrow.Lookup.Reference

/-!
# Building from what was found

`findEscrowVtxo` looks at the addresses of all candidates, and what it returns no longer says
which of them has the VTXO. A caller that goes on with `buildReleaseTx` and the contract it
asked with spends by the leaf of that contract. `buildReleaseForOutpoint` spends by the leaf
of the candidate that has the script under which the VTXO is listed. The two agree on a VTXO
just when the server lists it under the script of the contract that was asked with
(`build_agrees_iff`): not after a rotation of the server key.
-/

set_option autoImplicit false

namespace ArkadeEscrow
namespace Lookup

open Batch Refresh

variable {L : BatchLib} {A : ArkLib L} {B : BitcoinLib} {T : TaprootLib}
variable {clock : Option Nat} {client : EscrowClient A} {contract : EscrowContract B T}
variable {signerSet : SignerSet}

/-- The leaf, the control block and the script by which an input is spent. -/
def spendPath (input : VtxoInput) : ScriptBuf × ControlBlock × ScriptBuf :=
  (input.spendScript, input.controlBlock, input.scriptPubkey)

/-- Building with the contract spends the VTXO in the way in which building by its outpoint
does, and that is the way in which it is listed. -/
def BuildAgrees (clock : Option Nat) (client : EscrowClient A) (contract : EscrowContract B T)
    (signerSet : SignerSet) (vtxo : EscrowVtxo) (listed : A.Vtxo) : Prop :=
  ∃ info resolved,
    resolveSpendableEscrowVtxo clock client contract vtxo.outpoint = .ok (info, resolved) ∧
      (vtxoInput contract vtxo signerSet).map spendPath =
        (vtxoInput resolved.contract resolved.vtxo signerSet).map spendPath ∧
      contract.scriptPubkey = resolved.contract.scriptPubkey ∧ contract.scriptPubkey = listed.script

/-- The spend path is that of the contract. -/
theorem spendPath_vtxoInput (vtxo vtxo' : EscrowVtxo) :
    (vtxoInput contract vtxo signerSet).map spendPath =
      (vtxoInput contract vtxo' signerSet).map spendPath := by
  rw [vtxoInput, vtxoInput]
  cases contract.controlBlock (signerSet.script B contract.options) <;> rfl

/-- The VTXO is listed under the script of the contract, and so is what is listed first under
its outpoint. -/
def ListedUnder (contract : EscrowContract B T) (spendable : List A.Vtxo) (listed : A.Vtxo) :
    Prop :=
  listed.script = contract.scriptPubkey ∧
    ∀ first, (spendable.find? fun v => v.outpoint == listed.outpoint) = some first →
      first.script = contract.scriptPubkey

/-- The candidates of a listing. -/
theorem candidates_of_listed {info : A.ServerInfo} {candidates : List (EscrowContract B T)}
    {vtxoList : A.VtxoList}
    (listing : listCandidateVtxos clock client contract = .ok (info, candidates, vtxoList)) :
    candidates = candidateContracts contract info.signerPk.xOnly info.deprecatedSigners := by
  obtain ⟨info', _, listing⟩ := Results.bind_eq_ok_iff.mp listing
  obtain ⟨vtxos, _, same⟩ := Results.bind_eq_ok_iff.mp listing
  cases same
  rfl

/-- **When the two ways to build agree on a VTXO.** -/
theorem buildAgrees_iff {info : A.ServerInfo} {candidates : List (EscrowContract B T)}
    {vtxoList : A.VtxoList}
    (listing : listCandidateVtxos clock client contract = .ok (info, candidates, vtxoList))
    {listed : A.Vtxo} (member : listed ∈ A.spendableOffchain vtxoList) :
    BuildAgrees clock client contract signerSet ⟨listed.outpoint, listed.amount⟩ listed ↔
      ListedUnder contract (A.spendableOffchain vtxoList) listed := by
  constructor
  · rintro ⟨info', resolved, found, _, same, script⟩
    refine ⟨script.symm, fun first here => ?_⟩
    rw [resolveSpendableEscrowVtxo, listing, Results.ok_bind] at found
    dsimp only at found
    rw [here] at found
    obtain ⟨vtxo, same', found⟩ := Results.bind_eq_ok_iff.mp found
    obtain ⟨owner, owned, found⟩ := Results.bind_eq_ok_iff.mp found
    cases same'
    cases found
    exact (contractForScript_eq_ok owned).2.symm.trans same.symm
  · rintro ⟨script, first⟩
    cases here : (A.spendableOffchain vtxoList).find? fun v => v.outpoint == listed.outpoint with
    | none =>
        exact absurd (beq_self_eq_true listed.outpoint)
          (List.find?_eq_none.mp here listed member)
    | some vtxo =>
        refine ⟨info, ⟨contract, ⟨vtxo.outpoint, vtxo.amount⟩⟩, ?_, spendPath_vtxoInput _ _, rfl,
          script.symm⟩
        rw [resolveSpendableEscrowVtxo, listing, Results.ok_bind]
        dsimp only
        rw [here, candidates_of_listed listing]
        refine Results.bind_eq_ok_iff.mpr ⟨vtxo, rfl, ?_⟩
        rw [first vtxo here, contractForScript_self]
        rfl

/-- **When finding and then building agrees with building by outpoint**: for each VTXO that is
found, just when it is listed under the script of the contract. -/
theorem find_then_build_agrees_iff {vtxos : List EscrowVtxo}
    (found : findSpendableEscrowVtxos clock client contract = .ok vtxos) :
    findEscrowVtxo clock client contract = .ok vtxos.head? ∧
    ∃ info candidates vtxoList,
      listCandidateVtxos clock client contract = .ok (info, candidates, vtxoList) ∧
      List.Forall₂ (fun vtxo listed =>
        BuildAgrees clock client contract signerSet vtxo listed ↔
          ListedUnder contract (A.spendableOffchain vtxoList) listed)
        vtxos (A.spendableOffchain vtxoList) := by
  constructor
  · rw [findEscrowVtxo, found]
    rfl
  · obtain ⟨⟨info, candidates, vtxoList⟩, listing, same⟩ := Results.bind_eq_ok_iff.mp found
    cases same
    refine ⟨info, candidates, vtxoList, listing, ?_⟩
    rw [List.forall₂_map_left_iff, List.forall₂_same]
    exact fun listed member => buildAgrees_iff listing member

/-! ## After a rotation -/

namespace Sample

/-- The contract that was funded is a candidate of the one with the current key. -/
theorem listCandidateVtxos_newContract :
    ∃ candidates, listCandidateVtxos none Sample.client newContract =
      .ok (info, candidates, [funded]) := by
  refine ⟨candidateContracts newContract info.signerPk.xOnly info.deprecatedSigners, ?_⟩
  have funds : oldContract ∈
      candidateContracts newContract info.signerPk.xOnly info.deprecatedSigners :=
    mem_candidateContracts.mpr ⟨⟨4⟩, .inr (by simp [announcedKeys, info]),
      oldContract.withServer_self⟩
  have asked : ((candidateContracts newContract info.signerPk.xOnly info.deprecatedSigners).map
      (address ArkLib.reference)).any (fun address =>
        ArkLib.reference.toP2trScriptPubkey address == funded.script) = true :=
    List.any_eq_true.mpr ⟨_, List.mem_map_of_mem funds, beq_self_eq_true _⟩
  have vtxos : Sample.client.listVtxos ((candidateContracts newContract info.signerPk.xOnly
      info.deprecatedSigners).map (address ArkLib.reference)) = .ok [funded] :=
    congrArg Except.ok (List.filter_cons_of_pos asked)
  have connected : serverInfo Sample.client.serverInfo = .ok info := rfl
  rw [listCandidateVtxos, connected, Results.ok_bind]
  dsimp only
  rw [vtxos]
  rfl

theorem scripts_differ : newContract.scriptPubkey ≠ oldContract.scriptPubkey := by
  intro same
  exact absurd (scriptPubkey_committing_injective same) (by decide)

end Sample

theorem find_then_build_agrees_iff_sample :
    findEscrowVtxo none Sample.client Sample.newContract = .ok (some ⟨⟨⟨1⟩, 0⟩, ⟨1000⟩⟩) ∧
    ∃ info candidates vtxoList,
      listCandidateVtxos none Sample.client Sample.newContract = .ok (info, candidates, vtxoList) ∧
      List.Forall₂ (fun vtxo listed =>
        BuildAgrees none Sample.client Sample.newContract .sellerBuyer vtxo listed ↔
          ListedUnder Sample.newContract (ArkLib.reference.spendableOffchain vtxoList) listed)
        [⟨⟨⟨1⟩, 0⟩, ⟨1000⟩⟩] (ArkLib.reference.spendableOffchain vtxoList) := by
  obtain ⟨candidates, listing⟩ := Sample.listCandidateVtxos_newContract
  have found : findSpendableEscrowVtxos none Sample.client Sample.newContract =
      .ok [⟨⟨⟨1⟩, 0⟩, ⟨1000⟩⟩] := by
    rw [findSpendableEscrowVtxos, listing]
    rfl
  exact find_then_build_agrees_iff found

/-- What was found under an old key is not spent in the way in which it is listed. -/
theorem find_then_build_disagrees :
    findEscrowVtxo none Sample.client Sample.newContract = .ok (some ⟨⟨⟨1⟩, 0⟩, ⟨1000⟩⟩) ∧
    (∃ candidates, listCandidateVtxos none Sample.client Sample.newContract =
      .ok (Sample.info, candidates, [Sample.funded])) ∧
    ¬BuildAgrees none Sample.client Sample.newContract .sellerBuyer ⟨⟨⟨1⟩, 0⟩, ⟨1000⟩⟩
      Sample.funded := by
  obtain ⟨candidates, listing⟩ := Sample.listCandidateVtxos_newContract
  refine ⟨?_, ⟨candidates, listing⟩, ?_⟩
  · rw [findEscrowVtxo, findSpendableEscrowVtxos, listing]
    rfl
  · rintro ⟨info, resolved, found, path, same, script⟩
    exact Sample.scripts_differ script

end Lookup
end ArkadeEscrow
