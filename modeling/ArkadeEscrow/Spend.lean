import ArkadeEscrow.Bitcoin
import ArkadeEscrow.Data.Results
import Mathlib.Data.List.Zip

/-!
# Checking the server's co-signature and merging signatures

`verifyServerArkTxSig` compares the server's copy of the ark transaction with the client's
own copy and returns the own copy with one signature added. `CoSigned` is what it has
checked when it accepts (`verifyServerArkTxSig_eq_ok_iff`). All of it but the signature is
read from the own copy, and none of that from the signatures recorded there, so the
accepted PSBT passes the check against itself (`verifyServerArkTxSig_self`).

`mergeArkTxSigs` copies the signatures of one PSBT into another: an entry that is already
there stays (`Psbt.sigAt_mergeSigs`).
-/

set_option autoImplicit false

open Std

namespace ArkadeEscrow

/-! ## Signatures in a PSBT -/

/-- Record a signature in an input, in place of the one under the same key. -/
def PsbtInput.insertSig (input : PsbtInput) (key : SigKey) (sig : TaprootSignature) :
    PsbtInput :=
  { input with tapScriptSigs := input.tapScriptSigs.insert key sig }

/-- The input without its signatures. -/
def PsbtInput.stripSigs (input : PsbtInput) : PsbtInput := { input with tapScriptSigs := ∅ }

/-- Copy the signatures of another record of the same input, replacing none. -/
def PsbtInput.mergeSigs (base other : PsbtInput) : PsbtInput :=
  { base with tapScriptSigs := base.tapScriptSigs.orInsertAll other.tapScriptSigs }

namespace Psbt

/-- `psbt.inputs[index].tap_script_sigs.insert(key, sig)`. -/
def insertSig (psbt : Psbt) (index : Nat) (key : SigKey) (sig : TaprootSignature) : Psbt :=
  { psbt with inputs := psbt.inputs.modify index fun input => input.insertSig key sig }

/-- Merge the signatures input by input. -/
def mergeSigs (base other : Psbt) : Psbt :=
  { base with inputs := List.zipWith PsbtInput.mergeSigs base.inputs other.inputs }

/-- The signature recorded under a key at an input. -/
def sigAt (psbt : Psbt) (index : Nat) (key : SigKey) : Option TaprootSignature :=
  psbt.inputs[index]?.bind fun input => input.tapScriptSigs[key]?

/-- Two PSBTs of the same transaction, with as many input records. -/
def SameShape (a b : Psbt) : Prop :=
  a.unsignedTx = b.unsignedTx ∧ a.inputs.length = b.inputs.length

/-- What is recorded for the inputs makes no difference. -/
theorem SameShape.wellFormed {a b : Psbt} (same : a.SameShape b) (wellFormed : b.WellFormed) :
    a.WellFormed := by
  obtain ⟨tx, count⟩ := same
  refine ⟨?_, ?_⟩
  · rw [count, tx]
    exact wellFormed.inputs
  · rw [tx]
    exact wellFormed.unsigned

/-- The PSBT without its signatures. -/
def stripSigs (psbt : Psbt) : Psbt :=
  { psbt with inputs := psbt.inputs.map PsbtInput.stripSigs }

@[simp] theorem insertSig_unsignedTx (psbt : Psbt) (index : Nat) (key : SigKey)
    (sig : TaprootSignature) : (psbt.insertSig index key sig).unsignedTx = psbt.unsignedTx := rfl

theorem insertSig_sameShape (psbt : Psbt) (index : Nat) (key : SigKey) (sig : TaprootSignature) :
    (psbt.insertSig index key sig).SameShape psbt :=
  ⟨rfl, List.length_modify ..⟩

@[simp] theorem mergeSigs_unsignedTx (base other : Psbt) :
    (base.mergeSigs other).unsignedTx = base.unsignedTx := rfl

@[simp] theorem stripSigs_unsignedTx (psbt : Psbt) :
    psbt.stripSigs.unsignedTx = psbt.unsignedTx := rfl

@[simp] theorem stripSigs_insertSig (psbt : Psbt) (index : Nat) (key : SigKey)
    (sig : TaprootSignature) : (psbt.insertSig index key sig).stripSigs = psbt.stripSigs := by
  simp only [stripSigs, insertSig, mk.injEq, true_and]
  apply List.ext_getElem?
  intro i
  rw [List.getElem?_map, List.getElem?_map, List.getElem?_modify]
  cases psbt.inputs[i]? with
  | none => rfl
  | some input =>
      by_cases here : index = i
      · simp [here, PsbtInput.stripSigs, PsbtInput.insertSig]
      · simp [here]

theorem mergeSigs_inputs_length {base other : Psbt}
    (same : base.inputs.length = other.inputs.length) :
    (base.mergeSigs other).inputs.length = base.inputs.length := by
  simp [mergeSigs, same]

/-- **A signature that is already there stays; a missing one is copied.** -/
theorem sigAt_mergeSigs {base other : Psbt} (same : base.inputs.length = other.inputs.length)
    (index : Nat) (key : SigKey) :
    (base.mergeSigs other).sigAt index key = (base.sigAt index key).or (other.sigAt index key) := by
  by_cases bound : index < base.inputs.length
  · have bound' : index < other.inputs.length := same ▸ bound
    simp [sigAt, mergeSigs, PsbtInput.mergeSigs, bound, bound',
      BTreeMap.getElem?_orInsertAll]
  · have bound' : ¬ index < other.inputs.length := same ▸ bound
    simp [sigAt, mergeSigs, List.getElem?_zipWith, List.getElem?_eq_none (Nat.not_lt.mp bound),
      List.getElem?_eq_none (Nat.not_lt.mp bound')]

end Psbt

namespace Spend

variable (B : BitcoinLib)

/-! ## The server's co-signature -/

/-- `psbt.inputs.get(input_index).with_context(..)`. -/
def inputAt (psbt : Psbt) (inputIndex : Nat) : Except Error PsbtInput :=
  orError s!"no input at index {inputIndex}" psbt.inputs[inputIndex]?

/-- `input.tap_scripts.first_key_value().context(..)`. -/
def firstTapScript (input : PsbtInput) : Except Error (ControlBlock × ScriptBuf × LeafVersion) :=
  orError "input has no tap_scripts entry" input.tapScripts.firstKeyValue

/-- The sighash of a script spend of `inputIndex` by the leaf recorded there. -/
def arkTxSighash (psbt : Psbt) (inputIndex : Nat) : Except Error (Message × TapLeafHash) := do
  let witnessUtxos ← psbt.inputs.zipIdx.mapM fun (input, i) =>
    orError s!"input {i} has no witness_utxo" input.witnessUtxo
  let input ← inputAt psbt inputIndex
  let (_, leafScript, leafVersion) ← firstTapScript input
  let leafHash := B.leafHash leafScript leafVersion
  let sighash ← withContext "computing ark tx sighash"
    (ofDisplay (B.scriptSpendSighash psbt.unsignedTx inputIndex witnessUtxos leafHash))
  return (sighash, leafHash)

/-- `Script::is_p2tr`: a version 1 witness program of 32 bytes. -/
def isP2tr (spk : ScriptBuf) : Bool :=
  spk.length == 34 && spk[0]? == some 0x51 && spk[1]? == some 0x20

/-- The output that is spent commits to the recorded leaf. -/
def verifyLeafCommitment (psbt : Psbt) (inputIndex : Nat) : Except Error Unit := do
  let input ← inputAt psbt inputIndex
  let (controlBlock, leafScript, _) ← firstTapScript input
  let utxo ← orError "input has no witness_utxo" input.witnessUtxo
  let spk := utxo.scriptPubkey
  ensure (isP2tr spk) s!"input {inputIndex} does not spend a taproot output"
  let outputKey ← withContext "parsing taproot output key" (ofDisplay (B.keyFromSlice (spk.drop 2)))
  ensure (B.verifyTaprootCommitment controlBlock outputKey leafScript)
    "escrow leaf is not committed to by the taproot output being spent"

/-- The server key of the recorded leaf: the last of its three `CHECKSIG` keys. -/
def escrowLeafServerKey (psbt : Psbt) (inputIndex : Nat) : Except Error XOnlyPublicKey := do
  let input ← inputAt psbt inputIndex
  let (_, leafScript, _) ← firstTapScript input
  match B.extractChecksigPubkeys leafScript with
  | [_, _, server] => return server
  | keys =>
      let count := keys.length
      throw (.msg s!"escrow leaf has {count} CHECKSIG keys, expected 3 (party, party, server)")

/-- Check that `serverSigned` is the server's co-signed copy of `own`, and return `own` with
the server's signature. The source's `canonical.inputs[0]` cannot be out of bounds: the
server key was read from that input. -/
def verifyServerArkTxSig (own serverSigned : Psbt) : Except Error Psbt := do
  let ownTxid := B.txidToString (B.computeTxid own.unsignedTx)
  let serverTxid := B.txidToString (B.computeTxid serverSigned.unsignedTx)
  ensure (serverSigned.unsignedTx == own.unsignedTx)
    s!"server returned a different ark transaction (local {ownTxid}, server {serverTxid})"
  let serverKey ← escrowLeafServerKey B own 0
  verifyLeafCommitment B own 0
  let (msg, leafHash) ← arkTxSighash B own 0
  let input ← orError "server ark tx has no inputs" serverSigned.inputs.head?
  let keyText := B.keyToString serverKey
  let sig ← orError
    s!"server did not co-sign the ark transaction with the leaf's server key {keyText}"
    input.tapScriptSigs[(serverKey, leafHash)]?
  let sighashText := sig.sighashType.debug
  ensure (sig.sighashType == .default)
    s!"server signature uses sighash type {sighashText}, expected Default"
  withContext s!"server signature by {keyText} is invalid"
    (ofDisplay (B.verifySchnorr sig.signature msg serverKey))
  return own.insertSig 0 (serverKey, leafHash) sig

/-- What has been checked when the server's copy is accepted. -/
structure CoSigned (own serverSigned : Psbt) (serverKey : XOnlyPublicKey)
    (leafHash : TapLeafHash) (msg : Message) (sig : TaprootSignature) : Prop where
  unsignedTx : serverSigned.unsignedTx = own.unsignedTx
  leafKey : escrowLeafServerKey B own 0 = .ok serverKey
  committed : verifyLeafCommitment B own 0 = .ok ()
  sighash : arkTxSighash B own 0 = .ok (msg, leafHash)
  recorded : serverSigned.sigAt 0 (serverKey, leafHash) = some sig
  default : sig.sighashType = .default
  valid : B.verifySchnorr sig.signature msg serverKey = .ok ()

variable {B}

theorem sigAt_zero_eq_some {psbt : Psbt} {key : SigKey} {sig : TaprootSignature} :
    psbt.sigAt 0 key = some sig ↔
      ∃ input, psbt.inputs.head? = some input ∧ input.tapScriptSigs[key]? = some sig := by
  rw [Psbt.sigAt, ← List.head?_eq_getElem?, Option.bind_eq_some_iff]

/-- **The server's copy is accepted exactly when it is co-signed**, and the result is the
own copy with the server's signature. -/
theorem verifyServerArkTxSig_eq_ok_iff {own serverSigned canonical : Psbt} :
    verifyServerArkTxSig B own serverSigned = .ok canonical ↔
      ∃ serverKey leafHash msg sig, CoSigned B own serverSigned serverKey leafHash msg sig ∧
        canonical = own.insertSig 0 (serverKey, leafHash) sig := by
  constructor
  · intro accepted
    obtain ⟨⟨⟩, same, accepted⟩ := Results.bind_eq_ok_iff.mp accepted
    obtain ⟨serverKey, key, accepted⟩ := Results.bind_eq_ok_iff.mp accepted
    obtain ⟨⟨⟩, committed, accepted⟩ := Results.bind_eq_ok_iff.mp accepted
    obtain ⟨⟨msg, leafHash⟩, sighash, accepted⟩ := Results.bind_eq_ok_iff.mp accepted
    obtain ⟨input, first, accepted⟩ := Results.bind_eq_ok_iff.mp accepted
    obtain ⟨sig, found, accepted⟩ := Results.bind_eq_ok_iff.mp accepted
    obtain ⟨⟨⟩, default, accepted⟩ := Results.bind_eq_ok_iff.mp accepted
    obtain ⟨⟨⟩, valid, accepted⟩ := Results.bind_eq_ok_iff.mp accepted
    refine ⟨serverKey, leafHash, msg, sig, ?_, (Except.ok.inj accepted).symm⟩
    exact
      { unsignedTx := by simpa using same
        leafKey := key
        committed := committed
        sighash := sighash
        recorded := sigAt_zero_eq_some.mpr ⟨input, by simpa using first, by simpa using found⟩
        default := by simpa using default
        valid := by simpa using valid }
  · intro parts
    rcases parts with ⟨serverKey, leafHash, msg, sig, checked, rfl⟩
    obtain ⟨input, first, found⟩ := sigAt_zero_eq_some.mp checked.recorded
    refine Results.bind_eq_ok_iff.mpr ⟨(), by simpa using checked.unsignedTx, ?_⟩
    refine Results.bind_eq_ok_iff.mpr ⟨serverKey, checked.leafKey, ?_⟩
    refine Results.bind_eq_ok_iff.mpr ⟨(), checked.committed, ?_⟩
    refine Results.bind_eq_ok_iff.mpr ⟨(msg, leafHash), checked.sighash, ?_⟩
    refine Results.bind_eq_ok_iff.mpr ⟨input, by simpa using first, ?_⟩
    refine Results.bind_eq_ok_iff.mpr ⟨sig, by simpa using found, ?_⟩
    refine Results.bind_eq_ok_iff.mpr ⟨(), by simpa using checked.default, ?_⟩
    exact Results.bind_eq_ok_iff.mpr ⟨(), by simpa using checked.valid, rfl⟩

theorem verifyServerArkTxSig_unsignedTx {own serverSigned canonical : Psbt}
    (accepted : verifyServerArkTxSig B own serverSigned = .ok canonical) :
    canonical.unsignedTx = own.unsignedTx := by
  obtain ⟨_, _, _, _, _, rfl⟩ := verifyServerArkTxSig_eq_ok_iff.mp accepted
  rfl

theorem verifyServerArkTxSig_wellFormed {own serverSigned canonical : Psbt}
    (accepted : verifyServerArkTxSig B own serverSigned = .ok canonical)
    (wellFormed : own.WellFormed) : canonical.WellFormed := by
  obtain ⟨_, _, _, _, _, rfl⟩ := verifyServerArkTxSig_eq_ok_iff.mp accepted
  exact (own.insertSig_sameShape ..).wellFormed wellFormed

/-- A copy that is refused is refused by a check of the client, never by the server. -/
theorem statusless_verifyServerArkTxSig (own serverSigned : Psbt) :
    Statusless (verifyServerArkTxSig B own serverSigned) := by
  have input (psbt : Psbt) (i : Nat) : Statusless (inputAt psbt i) := .orError _ _
  have leaf (record : PsbtInput) : Statusless (firstTapScript record) := .orError _ _
  have serverKey : Statusless (escrowLeafServerKey B own 0) := by
    refine (input own 0).bind fun record => (leaf record).bind fun ⟨_, leafScript, _⟩ => ?_
    dsimp only
    split
    · exact .ok _
    · exact .throw_msg _
  have commitment : Statusless (verifyLeafCommitment B own 0) :=
    (input own 0).bind fun record => (leaf record).bind fun entry =>
      (Statusless.orError _ _).bind fun utxo => (Statusless.ensure _ _).bind fun _ =>
        ((Statusless.ofDisplay _).withContext _).bind fun outputKey => .ensure _ _
  have sighash : Statusless (arkTxSighash B own 0) :=
    (Statusless.mapM (fun entry => .orError _ _) _).bind fun utxos =>
      (input own 0).bind fun record => (leaf record).bind fun entry =>
        ((Statusless.ofDisplay _).withContext _).bind fun digest => .ok _
  exact (Statusless.ensure _ _).bind fun _ => serverKey.bind fun key => commitment.bind fun _ =>
    sighash.bind fun signed => (Statusless.orError _ _).bind fun record =>
      (Statusless.orError _ _).bind fun sig => (Statusless.ensure _ _).bind fun _ =>
        ((Statusless.ofDisplay _).withContext _).bind fun _ => .ok _

/-! ### What is read from the own copy does not depend on its signatures -/

theorem inputAt_stripSigs (psbt : Psbt) (inputIndex : Nat) :
    inputAt psbt.stripSigs inputIndex =
      (inputAt psbt inputIndex).map PsbtInput.stripSigs := by
  rw [inputAt, inputAt, Psbt.stripSigs, List.getElem?_map]
  cases psbt.inputs[inputIndex]? <;> rfl

theorem escrowLeafServerKey_stripSigs (psbt : Psbt) (inputIndex : Nat) :
    escrowLeafServerKey B psbt.stripSigs inputIndex = escrowLeafServerKey B psbt inputIndex := by
  rw [escrowLeafServerKey, escrowLeafServerKey, inputAt_stripSigs]
  cases inputAt psbt inputIndex <;> rfl

theorem verifyLeafCommitment_stripSigs (psbt : Psbt) (inputIndex : Nat) :
    verifyLeafCommitment B psbt.stripSigs inputIndex = verifyLeafCommitment B psbt inputIndex := by
  rw [verifyLeafCommitment, verifyLeafCommitment, inputAt_stripSigs]
  cases inputAt psbt inputIndex <;> rfl

theorem arkTxSighash_stripSigs (psbt : Psbt) (inputIndex : Nat) :
    arkTxSighash B psbt.stripSigs inputIndex = arkTxSighash B psbt inputIndex := by
  have utxos : (psbt.stripSigs.inputs.zipIdx.mapM fun (input, i) =>
        orError s!"input {i} has no witness_utxo" input.witnessUtxo) =
      psbt.inputs.zipIdx.mapM fun (input, i) =>
        orError s!"input {i} has no witness_utxo" input.witnessUtxo := by
    rw [Psbt.stripSigs, List.zipIdx_map, List.mapM_map]
    rfl
  rw [arkTxSighash, arkTxSighash, utxos, inputAt_stripSigs]
  cases inputAt psbt inputIndex <;> rfl

/-- Two own copies that differ in their signatures are checked alike. -/
theorem CoSigned.congr {own own' serverSigned serverSigned' : Psbt} {serverKey : XOnlyPublicKey}
    {leafHash : TapLeafHash} {msg : Message} {sig : TaprootSignature}
    (checked : CoSigned B own serverSigned serverKey leafHash msg sig)
    (same : own'.stripSigs = own.stripSigs)
    (unsignedTx : serverSigned'.unsignedTx = own'.unsignedTx)
    (recorded : serverSigned'.sigAt 0 (serverKey, leafHash) = some sig) :
    CoSigned B own' serverSigned' serverKey leafHash msg sig where
  unsignedTx := unsignedTx
  leafKey := by
    rw [← escrowLeafServerKey_stripSigs, same, escrowLeafServerKey_stripSigs]
    exact checked.leafKey
  committed := by
    rw [← verifyLeafCommitment_stripSigs, same, verifyLeafCommitment_stripSigs]
    exact checked.committed
  sighash := by
    rw [← arkTxSighash_stripSigs, same, arkTxSighash_stripSigs]
    exact checked.sighash
  recorded := recorded
  default := checked.default
  valid := checked.valid

/-- The own copy has an input: its leaf was read there. -/
theorem CoSigned.inputs_ne_nil {own serverSigned : Psbt} {serverKey : XOnlyPublicKey}
    {leafHash : TapLeafHash} {msg : Message} {sig : TaprootSignature}
    (checked : CoSigned B own serverSigned serverKey leafHash msg sig) : own.inputs ≠ [] := by
  intro empty
  obtain ⟨input, found, _⟩ := Results.bind_eq_ok_iff.mp checked.committed
  simp [inputAt, empty] at found

/-- **The accepted PSBT passes the check against itself.** -/
theorem verifyServerArkTxSig_self {own serverSigned canonical : Psbt}
    (accepted : verifyServerArkTxSig B own serverSigned = .ok canonical) :
    verifyServerArkTxSig B canonical canonical = .ok canonical := by
  obtain ⟨serverKey, leafHash, msg, sig, checked, rfl⟩ :=
    verifyServerArkTxSig_eq_ok_iff.mp accepted
  obtain ⟨input, rest, inputs⟩ := List.exists_cons_of_ne_nil checked.inputs_ne_nil
  have recorded : (own.insertSig 0 (serverKey, leafHash) sig).sigAt 0 (serverKey, leafHash) =
      some sig := by
    simp [Psbt.sigAt, Psbt.insertSig, PsbtInput.insertSig, inputs]
  refine verifyServerArkTxSig_eq_ok_iff.mpr ⟨serverKey, leafHash, msg, sig,
    checked.congr (Psbt.stripSigs_insertSig ..) rfl recorded, ?_⟩
  have again : (input.tapScriptSigs.insert (serverKey, leafHash) sig).insert
      (serverKey, leafHash) sig = input.tapScriptSigs.insert (serverKey, leafHash) sig := by
    apply ExtTreeMap.ext_getElem?
    intro key
    rw [ExtTreeMap.getElem?_insert]
    split
    · next same =>
        rw [← LawfulEqOrd.eq_of_compare same, ExtTreeMap.getElem?_insert_self]
    · rfl
  simp [Psbt.insertSig, PsbtInput.insertSig, inputs, again]

/-! ## Merging signatures -/

/-- Merge the signatures of `other` into `base`. -/
def mergeArkTxSigs (base other : Psbt) : Except Error Psbt := do
  ensure (base.unsignedTx == other.unsignedTx)
    "refusing to merge signatures: unsigned transactions differ"
  let baseCount := base.inputs.length
  let otherCount := other.inputs.length
  ensure (baseCount == otherCount)
    s!"refusing to merge signatures: input counts differ (base {baseCount}, other {otherCount})"
  return base.mergeSigs other

theorem mergeArkTxSigs_eq_ok_iff {base other merged : Psbt} :
    mergeArkTxSigs base other = .ok merged ↔
      base.SameShape other ∧ merged = base.mergeSigs other := by
  constructor
  · intro accepted
    obtain ⟨⟨⟩, unsignedTx, accepted⟩ := Results.bind_eq_ok_iff.mp accepted
    obtain ⟨⟨⟩, count, accepted⟩ := Results.bind_eq_ok_iff.mp accepted
    have same : base.SameShape other := ⟨by simpa using unsignedTx, by simpa using count⟩
    exact ⟨same, (Except.ok.inj accepted).symm⟩
  · intro parts
    rcases parts with ⟨⟨unsignedTx, count⟩, rfl⟩
    refine Results.bind_eq_ok_iff.mpr ⟨(), by simpa using unsignedTx, ?_⟩
    exact Results.bind_eq_ok_iff.mpr ⟨(), by simpa using count, rfl⟩

end Spend
end ArkadeEscrow
