import ArkadeEscrow.Reference

/-!
# What an accepted co-signature is worth

`Spendable` says that the server's copy carries the signature that the output which input 0
spends asks for: the leaf is hashed with the version that the output commits to, the one of
the control block. `verifyServerArkTxSig` hashes it with the version recorded next to the
script (`verifyServerArkTxSig_isOk_iff`), and `verify_leaf_commitment` does not look at
that one. So the check is exact where the two versions agree, or where the server's copy is
signed under both or under neither (`accepts_iff_spendable_iff`).
-/

set_option autoImplicit false

namespace ArkadeEscrow.Spend

variable (B : BitcoinLib)

/-- The first leaf of input 0 is an escrow leaf, and the output that is spent commits to it
under its control block. Every input comes with the output it spends. -/
structure EscrowLeaf (own : Psbt) (block : ControlBlock) (script : ScriptBuf)
    (recorded : LeafVersion) (serverKey : XOnlyPublicKey) (utxos : List TxOut) : Prop where
  leaf : ∃ input, own.inputs.head? = some input ∧
    input.tapScripts.firstKeyValue = some (block, script, recorded)
  keys : ∃ partyA partyB, B.extractChecksigPubkeys script = [partyA, partyB, serverKey]
  known : List.Forall₂ (fun (input : PsbtInput) out => input.witnessUtxo = some out)
    own.inputs utxos
  committed : ∃ spent key, utxos.head? = some spent ∧ isP2tr spent.scriptPubkey = true ∧
    B.keyFromSlice (spent.scriptPubkey.drop 2) = .ok key ∧
      B.verifyTaprootCommitment block key script = true

/-- The server's copy has a valid default signature of input 0 by the key, for the leaf of
the given version. -/
def SignedAs (own serverSigned : Psbt) (script : ScriptBuf) (version : LeafVersion)
    (serverKey : XOnlyPublicKey) (utxos : List TxOut) : Prop :=
  ∃ sig msg, serverSigned.sigAt 0 (serverKey, B.leafHash script version) = some sig ∧
    sig.sighashType = .default ∧
      B.scriptSpendSighash own.unsignedTx 0 utxos (B.leafHash script version) = .ok msg ∧
        B.verifySchnorr sig.signature msg serverKey = .ok ()

/-- The server's copy makes the committed leaf spendable. -/
def Spendable (own serverSigned : Psbt) : Prop :=
  serverSigned.unsignedTx = own.unsignedTx ∧
    ∃ block script recorded serverKey utxos,
      EscrowLeaf B own block script recorded serverKey utxos ∧
        SignedAs B own serverSigned script block.leafVersion serverKey utxos

variable {B}

/-! ## The steps of the check -/

theorem firstTapScript_eq_ok_iff {input : PsbtInput}
    {leaf : ControlBlock × ScriptBuf × LeafVersion} :
    firstTapScript input = .ok leaf ↔ input.tapScripts.firstKeyValue = some leaf :=
  orError_eq_ok_iff

theorem inputAt_zero_eq_ok_iff {psbt : Psbt} {input : PsbtInput} :
    inputAt psbt 0 = .ok input ↔ psbt.inputs.head? = some input := by
  rw [inputAt, orError_eq_ok_iff, List.head?_eq_getElem?]

theorem escrowLeafServerKey_eq_ok_iff {psbt : Psbt} {serverKey : XOnlyPublicKey} :
    escrowLeafServerKey B psbt 0 = .ok serverKey ↔
      ∃ input block script recorded, psbt.inputs.head? = some input ∧
        input.tapScripts.firstKeyValue = some (block, script, recorded) ∧
          ∃ partyA partyB, B.extractChecksigPubkeys script = [partyA, partyB, serverKey] := by
  constructor
  · intro accepted
    obtain ⟨input, present, accepted⟩ := Results.bind_eq_ok_iff.mp accepted
    obtain ⟨⟨block, script, recorded⟩, leaf, accepted⟩ := Results.bind_eq_ok_iff.mp accepted
    refine ⟨input, block, script, recorded, inputAt_zero_eq_ok_iff.mp present,
      firstTapScript_eq_ok_iff.mp leaf, ?_⟩
    dsimp only at accepted
    split at accepted
    · next partyA partyB server keys =>
        cases accepted
        exact ⟨partyA, partyB, keys⟩
    · cases accepted
  · rintro ⟨input, block, script, recorded, present, leaf, partyA, partyB, keys⟩
    refine Results.bind_eq_ok_iff.mpr ⟨input, inputAt_zero_eq_ok_iff.mpr present, ?_⟩
    refine Results.bind_eq_ok_iff.mpr ⟨_, firstTapScript_eq_ok_iff.mpr leaf, ?_⟩
    dsimp only
    rw [keys]
    rfl

theorem verifyLeafCommitment_eq_ok_iff {psbt : Psbt} :
    verifyLeafCommitment B psbt 0 = .ok () ↔
      ∃ input block script recorded spent key, psbt.inputs.head? = some input ∧
        input.tapScripts.firstKeyValue = some (block, script, recorded) ∧
          input.witnessUtxo = some spent ∧ isP2tr spent.scriptPubkey = true ∧
            B.keyFromSlice (spent.scriptPubkey.drop 2) = .ok key ∧
              B.verifyTaprootCommitment block key script = true := by
  constructor
  · intro accepted
    obtain ⟨input, present, accepted⟩ := Results.bind_eq_ok_iff.mp accepted
    obtain ⟨⟨block, script, recorded⟩, leaf, accepted⟩ := Results.bind_eq_ok_iff.mp accepted
    obtain ⟨spent, known, accepted⟩ := Results.bind_eq_ok_iff.mp accepted
    obtain ⟨⟨⟩, taproot, accepted⟩ := Results.bind_eq_ok_iff.mp accepted
    obtain ⟨key, parsed, committed⟩ := Results.bind_eq_ok_iff.mp accepted
    exact ⟨input, block, script, recorded, spent, key, inputAt_zero_eq_ok_iff.mp present,
      firstTapScript_eq_ok_iff.mp leaf, orError_eq_ok_iff.mp known, ensure_eq_ok_iff.mp taproot,
      by simpa using parsed, ensure_eq_ok_iff.mp committed⟩
  · rintro ⟨input, block, script, recorded, spent, key, present, leaf, known, taproot, parsed,
      committed⟩
    refine Results.bind_eq_ok_iff.mpr ⟨input, inputAt_zero_eq_ok_iff.mpr present, ?_⟩
    refine Results.bind_eq_ok_iff.mpr ⟨_, firstTapScript_eq_ok_iff.mpr leaf, ?_⟩
    refine Results.bind_eq_ok_iff.mpr ⟨spent, orError_eq_ok_iff.mpr known, ?_⟩
    refine Results.bind_eq_ok_iff.mpr ⟨(), ensure_eq_ok_iff.mpr taproot, ?_⟩
    refine Results.bind_eq_ok_iff.mpr ⟨key, by simpa using parsed, ?_⟩
    exact ensure_eq_ok_iff.mpr committed

theorem witnessUtxos_eq_ok_iff {inputs : List PsbtInput} {start : Nat} {utxos : List TxOut} :
    ((inputs.zipIdx start).mapM fun (input, i) =>
        orError s!"input {i} has no witness_utxo" input.witnessUtxo) = .ok utxos ↔
      List.Forall₂ (fun (input : PsbtInput) out => input.witnessUtxo = some out)
        inputs utxos := by
  rw [Results.mapM_eq_ok_iff]
  simp only [orError_eq_ok_iff]
  have positions := List.forall₂_map_left_iff (f := Prod.fst) (l := inputs.zipIdx start)
    (u := utxos) (R := fun (input : PsbtInput) out => input.witnessUtxo = some out)
  rw [List.zipIdx_map_fst] at positions
  exact positions.symm

theorem arkTxSighash_eq_ok_iff {psbt : Psbt} {msg : Message} {leafHash : TapLeafHash} :
    arkTxSighash B psbt 0 = .ok (msg, leafHash) ↔
      ∃ utxos input block script recorded,
        List.Forall₂ (fun (input : PsbtInput) out => input.witnessUtxo = some out)
          psbt.inputs utxos ∧ psbt.inputs.head? = some input ∧
          input.tapScripts.firstKeyValue = some (block, script, recorded) ∧
            leafHash = B.leafHash script recorded ∧
              B.scriptSpendSighash psbt.unsignedTx 0 utxos leafHash = .ok msg := by
  constructor
  · intro accepted
    obtain ⟨utxos, known, accepted⟩ := Results.bind_eq_ok_iff.mp accepted
    obtain ⟨input, present, accepted⟩ := Results.bind_eq_ok_iff.mp accepted
    obtain ⟨⟨block, script, recorded⟩, leaf, accepted⟩ := Results.bind_eq_ok_iff.mp accepted
    obtain ⟨digest, sighash, accepted⟩ := Results.bind_eq_ok_iff.mp accepted
    cases accepted
    exact ⟨utxos, input, block, script, recorded, witnessUtxos_eq_ok_iff.mp known,
      inputAt_zero_eq_ok_iff.mp present, firstTapScript_eq_ok_iff.mp leaf, rfl,
      by simpa using sighash⟩
  · rintro ⟨utxos, input, block, script, recorded, known, present, leaf, rfl, sighash⟩
    refine Results.bind_eq_ok_iff.mpr ⟨utxos, witnessUtxos_eq_ok_iff.mpr known, ?_⟩
    refine Results.bind_eq_ok_iff.mpr ⟨input, inputAt_zero_eq_ok_iff.mpr present, ?_⟩
    refine Results.bind_eq_ok_iff.mpr ⟨_, firstTapScript_eq_ok_iff.mpr leaf, ?_⟩
    exact Results.bind_eq_ok_iff.mpr ⟨msg, by simpa using sighash, rfl⟩

/-! ## What is accepted -/

namespace EscrowLeaf

variable {own : Psbt} {block block' : ControlBlock} {script script' : ScriptBuf}
  {recorded recorded' : LeafVersion} {serverKey serverKey' : XOnlyPublicKey}
  {utxos utxos' : List TxOut}

/-- A PSBT names one escrow leaf. -/
theorem unique (leaf : EscrowLeaf B own block script recorded serverKey utxos)
    (leaf' : EscrowLeaf B own block' script' recorded' serverKey' utxos') :
    (block', script', recorded', serverKey', utxos') =
      (block, script, recorded, serverKey, utxos) := by
  obtain ⟨input, present, entry⟩ := leaf.leaf
  obtain ⟨input', present', entry'⟩ := leaf'.leaf
  cases present.symm.trans present'
  cases entry.symm.trans entry'
  obtain ⟨partyA, partyB, keys⟩ := leaf.keys
  obtain ⟨partyA', partyB', keys'⟩ := leaf'.keys
  cases keys.symm.trans keys'
  have functional : Relator.RightUnique
      fun (record : PsbtInput) out => record.witnessUtxo = some out :=
    fun _ _ _ found found' => Option.some.inj (found.symm.trans found')
  rw [functional.forall₂ leaf'.known leaf.known]

end EscrowLeaf

/-- The output that input 0 spends is the first of them all. -/
theorem head?_eq_some_iff_of_known {inputs : List PsbtInput} {utxos : List TxOut}
    (known : List.Forall₂ (fun (input : PsbtInput) out => input.witnessUtxo = some out)
      inputs utxos) {input : PsbtInput} (present : inputs.head? = some input) {spent : TxOut} :
    utxos.head? = some spent ↔ input.witnessUtxo = some spent := by
  cases known with
  | nil => cases present
  | cons first rest =>
      cases present
      rw [first]
      rfl

/-- **The check goes by the version that is recorded next to the script.** -/
theorem verifyServerArkTxSig_isOk_iff {own serverSigned : Psbt} :
    (∃ canonical, verifyServerArkTxSig B own serverSigned = .ok canonical) ↔
      serverSigned.unsignedTx = own.unsignedTx ∧
        ∃ block script recorded serverKey utxos,
          EscrowLeaf B own block script recorded serverKey utxos ∧
            SignedAs B own serverSigned script recorded serverKey utxos := by
  constructor
  · rintro ⟨canonical, accepted⟩
    obtain ⟨serverKey, leafHash, msg, sig, checked, _⟩ :=
      verifyServerArkTxSig_eq_ok_iff.mp accepted
    -- the three functions read the same entry of the same input
    obtain ⟨utxos, input, block, script, recorded, known, present, leaf, rfl, sighash⟩ :=
      arkTxSighash_eq_ok_iff.mp checked.sighash
    obtain ⟨input', block', script', recorded', present', leaf', keys⟩ :=
      escrowLeafServerKey_eq_ok_iff.mp checked.leafKey
    cases present.symm.trans present'
    cases leaf.symm.trans leaf'
    obtain ⟨input'', block'', script'', recorded'', spent, key, present'', leaf'', found, taproot,
      parsed, committed⟩ := verifyLeafCommitment_eq_ok_iff.mp checked.committed
    cases present.symm.trans present''
    cases leaf.symm.trans leaf''
    have first := (head?_eq_some_iff_of_known known present).mpr found
    exact ⟨checked.unsignedTx, block, script, recorded, serverKey, utxos,
      ⟨⟨input, present, leaf⟩, keys, known, spent, key, first, taproot, parsed, committed⟩,
      sig, msg, checked.recorded, checked.default, sighash, checked.valid⟩
  · rintro ⟨same, block, script, recorded, serverKey, utxos, escrowLeaf, sig, msg, entry, default,
      sighash, valid⟩
    obtain ⟨input, present, leaf⟩ := escrowLeaf.leaf
    obtain ⟨spent, key, first, taproot, parsed, committed⟩ := escrowLeaf.committed
    have found := (head?_eq_some_iff_of_known escrowLeaf.known present).mp first
    have leafKey := escrowLeafServerKey_eq_ok_iff.mpr
      ⟨input, block, script, recorded, present, leaf, escrowLeaf.keys⟩
    have commitment := verifyLeafCommitment_eq_ok_iff.mpr
      ⟨input, block, script, recorded, spent, key, present, leaf, found, taproot, parsed,
        committed⟩
    have hashed := arkTxSighash_eq_ok_iff.mpr
      ⟨utxos, input, block, script, recorded, escrowLeaf.known, present, leaf, rfl, sighash⟩
    exact ⟨_, verifyServerArkTxSig_eq_ok_iff.mpr ⟨serverKey, _, msg, sig,
      ⟨same, leafKey, commitment, hashed, entry, default, valid⟩, rfl⟩⟩

/-! ## When what is accepted is spendable -/

/-- Where the recorded version is not the one of the control block, the copies signed under
the one are the copies signed under the other. -/
def VersionsAgree (B : BitcoinLib) (own serverSigned : Psbt) : Prop :=
  ∀ block script recorded serverKey utxos,
    EscrowLeaf B own block script recorded serverKey utxos →
      serverSigned.unsignedTx = own.unsignedTx → recorded ≠ block.leafVersion →
        (SignedAs B own serverSigned script recorded serverKey utxos ↔
          SignedAs B own serverSigned script block.leafVersion serverKey utxos)

/-- **What is accepted is what makes the leaf spendable, exactly where the versions agree.** -/
theorem accepts_iff_spendable_iff (own serverSigned : Psbt) :
    ((∃ canonical, verifyServerArkTxSig B own serverSigned = .ok canonical) ↔
        Spendable B own serverSigned) ↔ VersionsAgree B own serverSigned := by
  rw [verifyServerArkTxSig_isOk_iff]
  constructor
  · intro exact block script recorded serverKey utxos leaf same _
    constructor
    · intro signed
      obtain ⟨_, _, _, _, _, _, leaf', signed'⟩ :=
        exact.mp ⟨same, block, script, recorded, serverKey, utxos, leaf, signed⟩
      cases leaf.unique leaf'
      exact signed'
    · intro signed
      obtain ⟨_, _, _, _, _, _, leaf', signed'⟩ :=
        exact.mpr ⟨same, block, script, recorded, serverKey, utxos, leaf, signed⟩
      cases leaf.unique leaf'
      exact signed'
  · intro agree
    refine and_congr_right fun same => ?_
    refine exists_congr fun block => exists_congr fun script => exists_congr fun recorded =>
      exists_congr fun serverKey => exists_congr fun utxos => and_congr_right fun leaf => ?_
    by_cases version : recorded = block.leafVersion
    · rw [version]
    · exact agree block script recorded serverKey utxos leaf same version

end ArkadeEscrow.Spend

namespace ArkadeEscrow.Sample

open BitcoinLib Tapscript

noncomputable section

/-- A leaf version that nobody has committed to. -/
def otherVersion : LeafVersion := 0xc2

def otherHash : TapLeafHash := reference.leafHash leafScript otherVersion

/-- An ark transaction whose leaf is recorded with the other version. -/
def relabelled : Psbt where
  unsignedTx := (arkTx [checkpoint 1 ∅]).unsignedTx
  inputs := [{ input with
    tapScripts := (∅ : BTreeMap ControlBlock (ScriptBuf × LeafVersion)).insert controlBlock
      (leafScript, otherVersion) }]

def otherSignature : TaprootSignature :=
  ⟨referenceSignature ⟨0 + otherHash.digest + 0⟩ options.server, .default⟩

/-- The server's copy, signed for the leaf hash that nobody has committed to. -/
def missigned : Psbt := relabelled.insertSig 0 (options.server, otherHash) otherSignature

theorem otherHash_ne_leafHash : otherHash ≠ leafHash := by
  intro same
  have digests := congrArg (fun hash => hash.digest.toNat % 256) same
  simp [otherHash, leafHash, reference, otherVersion, leafVersionTapScript, Number.magnitude,
    Nat.ofDigits_cons] at digests

theorem escrowLeaf_relabelled : Spend.EscrowLeaf reference relabelled controlBlock leafScript
    otherVersion options.server [utxo] where
  leaf := ⟨_, rfl, BTreeMap.firstKeyValue_singleton ..⟩
  keys := ⟨options.seller, options.arbiter, extractChecksigPubkeys_collaborative3of3 ..⟩
  known := .cons rfl .nil
  committed := by
    refine ⟨utxo, outputKey, rfl, ?_, keyFromSlice_serialize outputKey, ?_⟩
    · simp [Spend.isP2tr, utxo, outputKey.serialize_length]
    · simp [reference, outputKey, controlBlock]

theorem signedAs_missigned : Spend.SignedAs reference relabelled missigned leafScript otherVersion
    options.server [utxo] := by
  refine ⟨otherSignature, ⟨0 + otherHash.digest + 0⟩, ?_, rfl, ?_,
    verifySchnorr_referenceSignature _ options.server⟩
  · simp [missigned, Psbt.sigAt, Psbt.insertSig, PsbtInput.insertSig, relabelled, otherHash]
  · simp [reference, relabelled, arkTx, otherHash]

theorem not_spendable_missigned : ¬ Spend.Spendable reference relabelled missigned := by
  rintro ⟨_, block, script, recorded, serverKey, utxos, leaf, sig, _, entry, _⟩
  cases escrowLeaf_relabelled.unique leaf
  have differ : ¬ otherHash = leafHash := otherHash_ne_leafHash
  have key : reference.leafHash leafScript controlBlock.leafVersion = leafHash := rfl
  rw [key] at entry
  simp [missigned, Psbt.sigAt, Psbt.insertSig, PsbtInput.insertSig, relabelled, input,
    differ] at entry

/-- **A signature is accepted that spends nothing**: the entry records another leaf version
than its control block, and the server signs for that one. -/
theorem not_always_accepts_iff_spendable :
    ¬ ∀ own serverSigned : Psbt, own.inputs.length = own.unsignedTx.input.length →
      serverSigned.inputs.length = serverSigned.unsignedTx.input.length →
        ((∃ canonical, Spend.verifyServerArkTxSig reference own serverSigned = .ok canonical) ↔
          Spend.Spendable reference own serverSigned) := by
  intro claimed
  have same : missigned.unsignedTx = relabelled.unsignedTx := Psbt.insertSig_unsignedTx ..
  have accepted := Spend.verifyServerArkTxSig_isOk_iff.mpr ⟨same, controlBlock, leafScript,
    otherVersion, options.server, [utxo], escrowLeaf_relabelled, signedAs_missigned⟩
  have records : relabelled.inputs.length = relabelled.unsignedTx.input.length := by
    simp [relabelled, arkTx]
  have records' : missigned.inputs.length = missigned.unsignedTx.input.length := by
    simp [missigned, relabelled, arkTx, Psbt.insertSig]
  exact not_spendable_missigned ((claimed relabelled missigned records records').mp accepted)

end

end ArkadeEscrow.Sample
