import ArkadeEscrow.Batch.Reference
import ArkadeEscrow.Lookup.Candidates
import ArkadeEscrow.Taproot

/-!
# A reference library for lookups

The output key of a taproot tree commits to its leaves, so to the server key in them.
`TaprootLib.committing` does that in the simplest way: the output key is the server key of the
collaborative leaves (`outputKey_committing`). It finds it in any tree that `combine` makes,
since that keeps the leaves.
-/

set_option autoImplicit false

namespace ArkadeEscrow

/-! ## Output keys that commit to the leaves -/

noncomputable section

open BitcoinLib

/-- The server key of a collaborative leaf. -/
def leafServer (script : ScriptBuf) : Option XOnlyPublicKey :=
  match reference.extractChecksigPubkeys script with
  | [_, _, server] => some server
  | _ => none

/-- The output key is the server key of the collaborative leaves. -/
def TaprootLib.committing : TaprootLib := { TaprootLib.reference with
  outputKey spendInfo := (spendInfo.1.findSome? fun entry => leafServer entry.2).getD spendInfo.2 }

theorem addToBuilder_committing (node : TreeNode) (builder : List (UInt8 × ScriptBuf))
    (depth : UInt8) :
    ∃ entries, addToBuilder TaprootLib.committing builder depth node = .ok (builder ++ entries) ∧
      entries.map (·.2) = node.scripts := by
  induction node generalizing builder depth with
  | leaf script weight => exact ⟨[(depth, script)], rfl, rfl⟩
  | branch left right weight ihLeft ihRight =>
      obtain ⟨entries, added, scripts⟩ := ihLeft builder (depth + 1)
      obtain ⟨entries', added', scripts'⟩ := ihRight (builder ++ entries) (depth + 1)
      refine ⟨entries ++ entries', ?_, ?_⟩
      · refine Results.bind_eq_ok_iff.mpr ⟨_, added, ?_⟩
        exact added'.trans (congrArg _ (List.append_assoc builder entries entries'))
      · rw [List.map_append, scripts, scripts', TreeNode.scripts]

/-- A tree is built, and has the six leaves. -/
theorem buildTaproot_committing (options : EscrowOptions) :
    ∃ spendInfo, buildTaproot reference TaprootLib.committing options = .ok spendInfo ∧
      (spendInfo.1.map (·.2)).Perm (options.leafScripts reference) := by
  let nodes := (options.leafScripts reference).map fun script => TreeNode.leaf script 1
  have some : nodes ≠ [] := by simp [nodes, EscrowOptions.leafScripts]
  obtain ⟨entries, added, scripts⟩ := addToBuilder_committing (combine nodes some) [] 0
  refine ⟨(entries, ⟨0⟩), Results.bind_eq_ok_iff.mpr ⟨entries, added, rfl⟩, ?_⟩
  have leaves : nodes.flatMap TreeNode.scripts = options.leafScripts reference := by
    simp [nodes, List.flatMap_map, TreeNode.scripts]
  rw [scripts, ← leaves]
  exact combine_scripts nodes some

theorem leafServer_collaborative (pkA pkB server : XOnlyPublicKey) :
    leafServer (collaborative3of3 reference pkA pkB server) = some server := by
  rw [leafServer, extractChecksigPubkeys_collaborative3of3]

theorem leafServer_unilateral (delay : UInt32) (pkA pkB : XOnlyPublicKey) :
    leafServer (unilateral2of2 reference delay pkA pkB) = none := by
  have keys : reference.extractChecksigPubkeys (unilateral2of2 reference delay pkA pkB) =
      [pkA, pkB] := by
    rw [extractChecksigPubkeys_of_decode
      (decode_unilateral2of2 buildsScripts_reference delay pkA pkB)]
    simp [checksigPubkeys, XOnlyPublicKey.serialize_length, keyOfBytes_serialize,
      Tapscript.opCheckSequenceVerify, Tapscript.opCheckSig, Tapscript.opCheckSigVerify]
  rw [leafServer, keys]

/-- The leaves name one server. -/
theorem leafServer_of_mem {options : EscrowOptions} {script : ScriptBuf}
    (member : script ∈ options.leafScripts reference) :
    leafServer script = none ∨ leafServer script = some options.server := by
  simp only [EscrowOptions.leafScripts, List.mem_cons, List.not_mem_nil, or_false] at member
  rcases member with rfl | rfl | rfl | rfl | rfl | rfl
  · exact .inr (leafServer_collaborative ..)
  · exact .inr (leafServer_collaborative ..)
  · exact .inr (leafServer_collaborative ..)
  · exact .inl (leafServer_unilateral ..)
  · exact .inl (leafServer_unilateral ..)
  · exact .inl (leafServer_unilateral ..)

/-- **The output key is the server key.** -/
theorem outputKey_committing (contract : EscrowContract reference TaprootLib.committing) :
    TaprootLib.committing.outputKey contract.spendInfo = contract.options.server := by
  obtain ⟨spendInfo, built, leaves⟩ := buildTaproot_committing contract.options
  have same : contract.spendInfo = spendInfo := Except.ok.inj (contract.built.symm.trans built)
  rw [same]
  show ((spendInfo.1.findSome? fun entry => leafServer entry.2).getD spendInfo.2) = _
  rw [← Function.comp_def leafServer Prod.snd, ← List.findSome?_map]
  cases found : (spendInfo.1.map Prod.snd).findSome? leafServer with
  | none =>
      have first : contract.options.sellerArbiterScript reference ∈ spendInfo.1.map Prod.snd :=
        leaves.mem_iff.mpr List.mem_cons_self
      cases (List.findSome?_eq_none_iff.mp found _ first).symm.trans (leafServer_collaborative ..)
  | some server =>
      obtain ⟨script, member, named⟩ := List.exists_of_findSome?_eq_some found
      rcases leafServer_of_mem (leaves.mem_iff.mp member) with none | some
      · cases none.symm.trans named
      · exact (Option.some.inj (some.symm.trans named)).symm

/-- Server keys are told apart by their scripts. -/
theorem scriptPubkey_committing_injective
    {contract contract' : EscrowContract reference TaprootLib.committing}
    (same : contract.scriptPubkey = contract'.scriptPubkey) :
    contract.options.server = contract'.options.server := by
  rw [EscrowContract.scriptPubkey, EscrowContract.scriptPubkey] at same
  have keys := XOnlyPublicKey.serialize_injective (List.cons.inj (List.cons.inj same).2).2
  rwa [outputKey_committing, outputKey_committing] at keys

namespace Lookup

/-- A transaction from the inputs of an intent to its outputs. -/
def intentProof (inputs : List IntentInput) (outputs : List IntentOutput) : Psbt where
  unsignedTx := ⟨2, 0, inputs.map fun input => ⟨input.outpoint, [], 0, []⟩,
    outputs.map fun | .offchain output => output⟩
  inputs := inputs.map fun input => ⟨some input.witnessUtxo, none, ∅, ∅⟩

/-- A library that takes all inputs and outputs as they are, and lists VTXOs in the order of
the server. -/
def ArkLib.reference : ArkLib Batch.BatchLib.reference where
  Address := Network × XOnlyPublicKey × XOnlyPublicKey
  ForfeitAddress := Unit
  InfoRest := Unit
  VtxoRest := Unit
  VtxoList := List (VirtualTxOutPoint Unit)
  newAddress network server key := (network, server, key)
  toP2trScriptPubkey destination := 0x51 :: 0x20 :: destination.2.2.serialize
  newVtxoList _ _ vtxos := vtxos
  spendableOffchain vtxos := vtxos.filter fun vtxo => !vtxo.isSwept
  allUnspent vtxos := vtxos
  buildOffchainTransactions receivers _ inputs _ := .ok
    (⟨⟨2, 0, inputs.map fun input => ⟨input.outpoint, [], 0, []⟩,
      receivers.map fun receiver =>
        ⟨receiver.amount, 0x51 :: 0x20 :: receiver.address.2.2.serialize⟩⟩,
      inputs.map fun input => ⟨some ⟨input.amount, input.scriptPubkey⟩, none, ∅, ∅⟩⟩, [])
  deleteMessage _ := ()
  makeIntent inputs outputs _ := .ok ⟨intentProof inputs outputs, ()⟩
  prepareDelegatePsbts inputs outputs cosignerPk _ _ :=
    .ok ⟨⟨intentProof inputs outputs, ()⟩, [], cosignerPk⟩
  amountText amount := toString amount.sat.toNat
  scriptText script := toLowerHex script

/-! ## A rotated key -/

namespace Sample

/-- The sample escrow with another server. -/
def contract (server : XOnlyPublicKey)
    (valid : ({ ArkadeEscrow.Sample.options with server := server }).validate = .ok ()) :
    EscrowContract BitcoinLib.reference TaprootLib.committing where
  options := { ArkadeEscrow.Sample.options with server := server }
  spendInfo := (buildTaproot_committing _).choose
  network := .regtest
  valid := valid
  built := (buildTaproot_committing _).choose_spec.1

/-- The contract that was funded. -/
def oldContract : EscrowContract BitcoinLib.reference TaprootLib.committing := contract ⟨4⟩ rfl

/-- The contract with the current key. -/
def newContract : EscrowContract BitcoinLib.reference TaprootLib.committing := contract ⟨5⟩ rfl

def info : ArkLib.reference.ServerInfo := ⟨⟨⟨5⟩, false⟩, [⟨⟨⟨4⟩, true⟩⟩], (), ⟨330⟩, ()⟩

/-- A VTXO that was funded before the key was rotated. -/
def funded : ArkLib.reference.Vtxo := ⟨⟨⟨1⟩, 0⟩, ⟨1000⟩, oldContract.scriptPubkey, false, ()⟩

/-- The server lists the VTXO to whoever asks for its address. -/
def client : EscrowClient ArkLib.reference where
  serverInfo := ⟨false, some info⟩
  listVtxos addresses := .ok ([funded].filter fun vtxo =>
    addresses.any fun address => ArkLib.reference.toP2trScriptPubkey address == vtxo.script)

theorem distinctScripts_sample (server : XOnlyPublicKey) (valid) :
    DistinctScripts (contract server valid) := by
  intro first second candidate candidate' made made' same
  have options := EscrowContract.withServer_options made
  have options' := EscrowContract.withServer_options made'
  have servers := scriptPubkey_committing_injective same
  rwa [options, options'] at servers

end Sample
end Lookup
end

end ArkadeEscrow
