import ArkadeEscrow.Leaves
import ArkadeEscrow.Spend
import ArkadeEscrow.SpendStore
import Mathlib.Data.Countable.Basic
import Mathlib.Logic.Equiv.List
import Mathlib.Tactic.DeriveCountable
import Mathlib.Tactic.IntervalCases

/-!
# A reference library

`BitcoinLib` takes the functions of other crates as parameters. `BitcoinLib.reference` is one
way to fill them in: texts are hexadecimal, scripts are built as bytes, a PSBT is numbered
and written as its number, and the one signature of a key for a message is the message
followed by the key. It has the properties that theorems assume of a library
(`psbtRoundTrips_reference`, `txidRoundTrips_reference`, `buildsScripts_reference`), and it
finds the keys of an escrow leaf (`extractChecksigPubkeys_collaborative3of3`).
-/

set_option autoImplicit false

namespace ArkadeEscrow

open Tapscript

/-! ## Hexadecimal text -/

/-- The value of a lower-case hexadecimal digit. -/
def hexValue (digit : Char) : Option Nat :=
  (List.range 16).find? fun n => Nat.digitChar n == digit

/-- Read pairs of hexadecimal digits. -/
def parseHex : List Char → Option (List UInt8)
  | [] => some []
  | [_] => none
  | high :: low :: digits => do
      let high ← hexValue high
      let low ← hexValue low
      let bytes ← parseHex digits
      return UInt8.ofNat (16 * high + low) :: bytes

theorem hexValue_digitChar {n : Nat} (bound : n < 16) : hexValue (Nat.digitChar n) = some n := by
  have all : ∀ n < 16, hexValue (Nat.digitChar n) = some n := by decide
  exact all n bound

theorem parseHex_flatMap_hexByte (bytes : List UInt8) :
    parseHex (bytes.flatMap hexByte) = some bytes := by
  induction bytes with
  | nil => rfl
  | cons byte bytes ih =>
      have bound := byte.toNat_lt
      have high := hexValue_digitChar (show byte.toNat / 16 < 16 by omega)
      have low := hexValue_digitChar (show byte.toNat % 16 < 16 by omega)
      rw [List.flatMap_cons, hexByte, List.cons_append, List.cons_append, List.nil_append,
        parseHex, high, low, ih]
      show some (UInt8.ofNat (16 * (byte.toNat / 16) + byte.toNat % 16) :: bytes) = _
      rw [Nat.div_add_mod, UInt8.ofNat_toNat]

/-! ## Keys -/

/-- The value of 32 bytes, the highest first. -/
def keyOfBytes (bytes : Bytes) : XOnlyPublicKey :=
  ⟨BitVec.ofNat 256 (Number.magnitude bytes.reverse)⟩

theorem magnitude_range (n width : Nat) :
    Number.magnitude ((List.range width).map fun i => UInt8.ofNat (n / 256 ^ i)) =
      n % 256 ^ width := by
  induction width with
  | zero => simp [Number.magnitude, Nat.mod_one]
  | succ width ih =>
      rw [List.range_succ, List.map_append, Number.magnitude, List.map_append,
        Nat.ofDigits_append, ← Number.magnitude, ih, Nat.mod_pow_succ]
      simp [UInt8.toNat_ofNat']

theorem keyOfBytes_serialize (key : XOnlyPublicKey) : keyOfBytes key.serialize = key := by
  have bytes : key.serialize.reverse =
      (List.range 32).map fun i => UInt8.ofNat (key.coordinate.toNat / 256 ^ i) := by
    refine List.ext_getElem (by simp [key.serialize_length]) fun i bound bound' => ?_
    rw [List.length_map, List.length_range] at bound'
    have position : 31 - (32 - 1 - i) = i := by omega
    rw [List.getElem_reverse, List.getElem_map, List.getElem_range]
    simp only [XOnlyPublicKey.serialize, List.getElem_ofFn, List.length_ofFn, position]
  rw [keyOfBytes, bytes, magnitude_range, Nat.mod_eq_of_lt (by simpa using key.coordinate.isLt)]
  simp

/-! ## Scripts -/

/-- Push a short byte string. -/
def pushSlice (data : Bytes) : ScriptBuf := UInt8.ofNat data.length :: data

/-- Push a number, with an opcode of its own where there is one. -/
def pushInt : Int → ScriptBuf
  | .ofNat 0 => [0x00]
  | .ofNat (n + 1) =>
      if n < 16 then [UInt8.ofNat (0x51 + n)] else pushSlice (Number.encode (n + 1))
  | .negSucc 0 => [0x4f]
  | .negSucc (n + 1) => pushSlice (Number.littleEndian (n + 2) ++ [0x80])

theorem pushes_pushSlice {data : Bytes} (short : data.length ≤ 75) :
    Pushes (pushSlice data) data := by
  have size : (UInt8.ofNat data.length).toNat = data.length :=
    UInt8.toNat_ofNat_of_lt (by simp [UInt8.size]; omega)
  have bound : UInt8.ofNat data.length ≤ 75 := by
    rw [UInt8.le_iff_toNat_le, size]
    exact short
  have plain : ∀ n ≤ 75, isSuccess (UInt8.ofNat n) = false := by decide
  refine ⟨_, data, rfl, plain _ short, fun rest => ?_⟩
  simp [instr, bound, take, size]

/-- The opcodes for the numbers from 1 to 16. -/
theorem instr_small {n : Nat} (small : n < 16) (rest : Bytes) :
    isSuccess (UInt8.ofNat (0x51 + n)) = false ∧
      instr (UInt8.ofNat (0x51 + n)) rest = some (.push (Number.encode (n + 1)), rest) := by
  have digits : Nat.digits 256 (n + 1) = [n + 1] :=
    Nat.digits_of_lt 256 (n + 1) (by simp) (by omega)
  have positive : ∀ n < 16, Number.isNegative [UInt8.ofNat (n + 1)] = false := by decide
  have encoded : Number.encode (n + 1) = [UInt8.ofNat (n + 1)] := by
    rw [Number.encode, Number.littleEndian, digits]
    exact if_neg (ne_true_of_eq_false (positive n small))
  rw [encoded]
  interval_cases n <;> exact ⟨rfl, rfl⟩

theorem pushes_pushInt {n : Nat} (bound : n < 2 ^ 32) : Pushes (pushInt n) (Number.encode n) := by
  cases n with
  | zero =>
      have empty : Number.encode 0 = [] := by
        simp [Number.encode, Number.littleEndian, Number.isNegative]
      rw [empty]
      exact ⟨0x00, [], rfl, rfl, fun rest => rfl⟩
  | succ n =>
      by_cases small : n < 16
      · have code : pushInt ((n + 1 : Nat) : Int) = [UInt8.ofNat (0x51 + n)] := if_pos small
        rw [code]
        exact ⟨_, [], rfl, (instr_small small []).1, fun rest => (instr_small small rest).2⟩
      · have code : pushInt ((n + 1 : Nat) : Int) = pushSlice (Number.encode (n + 1)) :=
          if_neg small
        have five : (Number.encode (n + 1)).length ≤ 4 + 1 :=
          Number.length_encode_le (by simpa using bound)
        rw [code]
        exact pushes_pushSlice (by omega)

/-- The keys of the signature checks of a script. -/
def checksigPubkeys : List Instr → List XOnlyPublicKey
  | .push data :: .op code :: instrs =>
      if data.length == 32 && (code == opCheckSig || code == opCheckSigVerify) then
        keyOfBytes data :: checksigPubkeys instrs
      else checksigPubkeys instrs
  | _ :: instrs => checksigPubkeys instrs
  | [] => []

/-! ## Numbering PSBTs -/

instance countableBitVec {width : Nat} : Countable (BitVec width) :=
  Function.Injective.countable (f := BitVec.toNat) fun _ _ => BitVec.eq_of_toNat_eq

instance countableUInt8 : Countable UInt8 :=
  Function.Injective.countable (f := UInt8.toNat) fun _ _ => UInt8.toNat_inj.mp

instance countableUInt32 : Countable UInt32 :=
  Function.Injective.countable (f := UInt32.toNat) fun _ _ => UInt32.toNat_inj.mp

instance countableUInt64 : Countable UInt64 :=
  Function.Injective.countable (f := UInt64.toNat) fun _ _ => UInt64.toNat_inj.mp

instance countableInt32 : Countable Int32 :=
  Function.Injective.countable (f := Int32.toInt) fun _ _ => Int32.toInt_inj.mp

deriving instance Countable for Txid, XOnlyPublicKey, TapLeafHash, SchnorrSignature, Amount,
  OutPoint, TxIn, TxOut, Transaction, TapSighashType, TaprootSignature, ControlBlock

instance : Countable PsbtInput := by
  let fields (input : PsbtInput) := (input.witnessUtxo, input.witnessScript,
    input.tapScriptSigs.toList, input.tapScripts.toList)
  refine Function.Injective.countable (f := fields) fun a b same => ?_
  obtain ⟨utxo, script, sigs, leaves⟩ : _ ∧ _ ∧ _ ∧ _ := by simpa [fields] using same
  cases a
  cases b
  simp only [PsbtInput.mk.injEq]
  exact ⟨utxo, script, Std.ExtTreeMap.toList_inj.mp sigs, Std.ExtTreeMap.toList_inj.mp leaves⟩

deriving instance Countable for Psbt

noncomputable instance : Encodable Psbt := .ofCountable Psbt

/-! ## The library -/

namespace BitcoinLib

/-- The one signature of a key for a message. -/
def referenceSignature (msg : Message) (key : XOnlyPublicKey) : SchnorrSignature :=
  ⟨msg.digest ++ key.coordinate⟩

/-- A library with the properties that theorems assume. It tells transactions apart by their
lock times. -/
noncomputable def reference : BitcoinLib where
  computeTxid tx := ⟨BitVec.ofNat 256 tx.lockTime.toNat⟩
  txidToString txid := toLowerHex (Number.littleEndian txid.digest.toNat)
  parseTxid s := match parseHex s.toList with
    | some bytes => .ok ⟨BitVec.ofNat 256 (Number.magnitude bytes)⟩
    | none => .error "bad hex string"
  keyToString key := toLowerHex key.serialize
  keyFromSlice bytes :=
    if bytes.length = 32 then .ok (keyOfBytes bytes) else .error "malformed public key"
  serialize psbt := Number.littleEndian (Encodable.encode psbt)
  deserialize bytes := match Encodable.decode (Number.magnitude bytes) with
    | some psbt => .ok psbt
    | none => .error "invalid PSBT"
  base64Encode := toLowerHex
  base64Decode s := match parseHex s.toList with
    | some bytes => .ok bytes
    | none => .error "invalid byte"
  leafHash script leafVersion := ⟨BitVec.ofNat 256 (Number.magnitude (leafVersion :: script))⟩
  scriptSpendSighash tx inputIndex utxos leafHash :=
    if inputIndex < tx.input.length ∧ utxos.length = tx.input.length then
      .ok ⟨BitVec.ofNat 256 tx.lockTime.toNat + leafHash.digest + BitVec.ofNat 256 inputIndex⟩
    else .error "index out of bounds"
  verifySchnorr sig msg key :=
    if sig = referenceSignature msg key then .ok () else .error "malformed signature"
  verifyTaprootCommitment controlBlock outputKey script :=
    outputKey.coordinate == controlBlock.internalKey.coordinate +
      BitVec.ofNat 256 (Number.magnitude (controlBlock.leafVersion :: script))
  extractChecksigPubkeys script := match decode script with
    | .script instrs => checksigPubkeys instrs
    | _ => []
  pushInt := ArkadeEscrow.pushInt
  pushXOnlyKey key := pushSlice key.serialize

theorem psbtRoundTrips_reference : reference.PsbtRoundTrips := by
  intro psbt _
  have text : reference.base64Decode (reference.psbtToBase64 psbt) =
      .ok (Number.littleEndian (Encodable.encode psbt)) := by
    simp [reference, psbtToBase64, toLowerHex, parseHex_flatMap_hexByte]
  have bytes : reference.deserialize (Number.littleEndian (Encodable.encode psbt)) = .ok psbt := by
    simp [reference, Number.magnitude_littleEndian]
  refine Results.bind_eq_ok_iff.mpr ⟨Number.littleEndian (Encodable.encode psbt), ?_, ?_⟩
  · simpa using text
  · simpa using bytes

theorem txidRoundTrips_reference : reference.TxidRoundTrips := by
  intro txid
  simp [reference, toLowerHex, parseHex_flatMap_hexByte, Number.magnitude_littleEndian]

theorem verifySchnorr_referenceSignature (msg : Message) (key : XOnlyPublicKey) :
    reference.verifySchnorr (referenceSignature msg key) msg key = .ok () := by
  simp [reference]

theorem keyFromSlice_serialize (key : XOnlyPublicKey) :
    reference.keyFromSlice key.serialize = .ok key := by
  simp [reference, key.serialize_length, keyOfBytes_serialize]

end BitcoinLib

open BitcoinLib

theorem buildsScripts_reference : BuildsScripts reference where
  pushInt n bound := pushes_pushInt bound
  pushXOnlyKey key := pushes_pushSlice (by rw [key.serialize_length]; omega)

theorem extractChecksigPubkeys_of_decode {script : ScriptBuf} {instrs : List Instr}
    (decoded : decode script = .script instrs) :
    reference.extractChecksigPubkeys script = checksigPubkeys instrs := by
  simp [reference, decoded]

/-- **The keys of a collaborative leaf** are found in the order of their checks. -/
theorem extractChecksigPubkeys_collaborative3of3 (pkA pkB server : XOnlyPublicKey) :
    reference.extractChecksigPubkeys (collaborative3of3 reference pkA pkB server) =
      [pkA, pkB, server] := by
  rw [extractChecksigPubkeys_of_decode
    (decode_collaborative3of3 buildsScripts_reference pkA pkB server)]
  simp [checksigPubkeys, XOnlyPublicKey.serialize_length, keyOfBytes_serialize]

/-! ## Taproot trees -/

/-- A taproot builder that lists the leaves and takes every one. -/
def TaprootLib.reference : TaprootLib where
  Builder := List (UInt8 × ScriptBuf)
  SpendInfo := List (UInt8 × ScriptBuf) × XOnlyPublicKey
  new := []
  addLeaf builder depth script := some (builder ++ [(depth, script)])
  finalize builder internalKey := some (builder, internalKey)
  controlBlock spendInfo leaf :=
    if spendInfo.1.any fun entry => entry.2 == leaf.1 then some ⟨leaf.2, false, spendInfo.2, []⟩
    else none
  outputKey spendInfo := spendInfo.2
  unspendableKey := ⟨0⟩

theorem exists_addToBuilder (node : TreeNode) (builder : TaprootLib.reference.Builder)
    (depth : UInt8) :
    ∃ builder', addToBuilder TaprootLib.reference builder depth node = .ok builder' := by
  induction node generalizing builder depth with
  | leaf script weight => exact ⟨_, rfl⟩
  | branch left right weight ihLeft ihRight =>
      obtain ⟨builder', added⟩ := ihLeft builder (depth + 1)
      obtain ⟨builder'', added'⟩ := ihRight builder' (depth + 1)
      exact ⟨builder'', Results.bind_eq_ok_iff.mpr ⟨builder', added, added'⟩⟩

/-- Valid options make a contract. -/
theorem EscrowContract.exists_new (B : BitcoinLib) {options : EscrowOptions}
    (valid : options.validate = .ok ()) (network : Network) :
    ∃ contract, EscrowContract.new B TaprootLib.reference options network = .ok contract := by
  refine exists_new_of_built valid ?_ network
  obtain ⟨builder, added⟩ := exists_addToBuilder
    (combine ((options.leafScripts B).map fun script => TreeNode.leaf script 1)
      (by simp [EscrowOptions.leafScripts])) [] 0
  exact ⟨_, Results.bind_eq_ok_iff.mpr ⟨builder, added, rfl⟩⟩

/-! ## A sample escrow -/

namespace Sample

def options : EscrowOptions where
  seller := ⟨1⟩
  buyer := ⟨2⟩
  arbiter := ⟨3⟩
  server := ⟨4⟩
  unilateralExitDelay := 144

noncomputable section

/-- The leaf by which seller and arbiter spend. -/
def leafScript : ScriptBuf := options.sellerArbiterScript reference

def leafHash : TapLeafHash := reference.leafHash leafScript leafVersionTapScript

def controlBlock : ControlBlock where
  leafVersion := leafVersionTapScript
  outputKeyParity := false
  internalKey := ⟨0⟩
  merkleBranch := []

/-- The output key of a tree that has only this leaf. -/
def outputKey : XOnlyPublicKey :=
  ⟨BitVec.ofNat 256 (Number.magnitude (leafVersionTapScript :: leafScript))⟩

def utxo : TxOut := ⟨⟨1000⟩, 0x51 :: 0x20 :: outputKey.serialize⟩

/-- An input of an ark transaction, not signed yet. -/
def input : PsbtInput where
  witnessUtxo := some utxo
  witnessScript := none
  tapScriptSigs := ∅
  tapScripts := (∅ : BTreeMap ControlBlock (ScriptBuf × LeafVersion)).insert controlBlock
    (leafScript, leafVersionTapScript)

def txIn (txid : Txid) : TxIn := ⟨⟨txid, 0⟩, [], 0xffffffff, []⟩

/-- A checkpoint with some recorded signatures, told apart from others by its number. -/
def checkpoint (number : UInt32) (sigs : BTreeMap SigKey TaprootSignature) : Psbt where
  unsignedTx := ⟨2, number, [txIn ⟨0⟩], []⟩
  inputs := [⟨none, none, sigs, ∅⟩]

@[simp] theorem wellFormed_checkpoint (number : UInt32) (sigs : BTreeMap SigKey TaprootSignature) :
    (checkpoint number sigs).WellFormed :=
  ⟨rfl, by simp [checkpoint, txIn]⟩

/-- What a checkpoint with one recorded signature carries. -/
theorem sigAt_checkpoint_eq_some_iff {number : UInt32} {own key : SigKey} {index : Nat}
    {recorded sig : TaprootSignature} :
    (checkpoint number ((∅ : BTreeMap SigKey TaprootSignature).insert own recorded)).sigAt index
        key = some sig ↔
      (index = 0 ∧ key = own) ∧ sig = recorded := by
  cases index with
  | zero =>
      by_cases same : own = key
      · subst same
        simp [Psbt.sigAt, checkpoint, eq_comm]
      · simp [Psbt.sigAt, checkpoint, same, Ne.symm same]
  | succ index => simp [Psbt.sigAt, checkpoint]

/-- Two checkpoints, not signed yet. -/
def pair : List Psbt := [checkpoint 1 ∅, checkpoint 2 ∅]

/-- The ark transaction that spends these checkpoints. -/
def arkTx (checkpoints : List Psbt) : Psbt where
  unsignedTx := ⟨2, 0, checkpoints.map fun cp => txIn (reference.computeTxid cp.unsignedTx), []⟩
  inputs := checkpoints.map fun _ => input

@[simp] theorem wellFormed_arkTx (checkpoints : List Psbt) : (arkTx checkpoints).WellFormed :=
  ⟨by simp [arkTx], by simp [arkTx, txIn]⟩

/-- What is signed on input 0. -/
def message : Message := ⟨0 + leafHash.digest + 0⟩

def serverSignature : TaprootSignature := ⟨referenceSignature message options.server, .default⟩

/-- The server's copy. -/
def cosigned (checkpoints : List Psbt) : Psbt :=
  (arkTx checkpoints).insertSig 0 (options.server, leafHash) serverSignature

/-- The checks of a co-signature, one by one. -/
theorem coSigned_of {B : BitcoinLib} {own serverSigned : Psbt} {record : PsbtInput}
    {block : ControlBlock} {script : ScriptBuf} {version : LeafVersion}
    {partyA partyB serverKey key : XOnlyPublicKey} {spent : TxOut} {spends : List TxOut}
    {msg : Message} {sig : TaprootSignature}
    (present : Spend.inputAt own 0 = .ok record)
    (leaf : Spend.firstTapScript record = .ok (block, script, version))
    (keys : B.extractChecksigPubkeys script = [partyA, partyB, serverKey])
    (known : record.witnessUtxo = some spent)
    (taproot : Spend.isP2tr spent.scriptPubkey = true)
    (parsed : B.keyFromSlice (spent.scriptPubkey.drop 2) = .ok key)
    (committed : B.verifyTaprootCommitment block key script = true)
    (utxos : (own.inputs.zipIdx.mapM fun (entry, i) =>
      orError s!"input {i} has no witness_utxo" entry.witnessUtxo) = .ok spends)
    (sighash : B.scriptSpendSighash own.unsignedTx 0 spends (B.leafHash script version) = .ok msg)
    (unsignedTx : serverSigned.unsignedTx = own.unsignedTx)
    (recorded : serverSigned.sigAt 0 (serverKey, B.leafHash script version) = some sig)
    (default : sig.sighashType = .default)
    (valid : B.verifySchnorr sig.signature msg serverKey = .ok ()) :
    Spend.CoSigned B own serverSigned serverKey (B.leafHash script version) msg sig where
  unsignedTx := unsignedTx
  leafKey := by
    refine Results.bind_eq_ok_iff.mpr ⟨record, present, ?_⟩
    refine Results.bind_eq_ok_iff.mpr ⟨_, leaf, ?_⟩
    dsimp only
    rw [keys]
    rfl
  committed := by
    refine Results.bind_eq_ok_iff.mpr ⟨record, present, ?_⟩
    refine Results.bind_eq_ok_iff.mpr ⟨_, leaf, ?_⟩
    refine Results.bind_eq_ok_iff.mpr ⟨spent, orError_eq_ok_iff.mpr known, ?_⟩
    refine Results.bind_eq_ok_iff.mpr ⟨(), ensure_eq_ok_iff.mpr taproot, ?_⟩
    refine Results.bind_eq_ok_iff.mpr ⟨key, by simpa using parsed, ?_⟩
    exact ensure_eq_ok_iff.mpr committed
  sighash := by
    refine Results.bind_eq_ok_iff.mpr ⟨spends, utxos, ?_⟩
    refine Results.bind_eq_ok_iff.mpr ⟨record, present, ?_⟩
    refine Results.bind_eq_ok_iff.mpr ⟨_, leaf, ?_⟩
    exact Results.bind_eq_ok_iff.mpr ⟨msg, by simpa using sighash, rfl⟩
  recorded := recorded
  default := default
  valid := valid

/-- **The server's copy of a sample ark transaction is accepted.** -/
theorem verified_cosigned (first : Psbt) (others : List Psbt) :
    Spend.verifyServerArkTxSig reference (arkTx (first :: others)) (cosigned (first :: others)) =
      .ok (cosigned (first :: others)) := by
  have leaf : Spend.firstTapScript input =
      .ok (controlBlock, leafScript, leafVersionTapScript) := by
    simp [Spend.firstTapScript, input]
  have keys : reference.extractChecksigPubkeys leafScript =
      [options.seller, options.arbiter, options.server] :=
    extractChecksigPubkeys_collaborative3of3 ..
  have taproot : Spend.isP2tr utxo.scriptPubkey = true := by
    simp [Spend.isP2tr, utxo, outputKey.serialize_length]
  have committed : reference.verifyTaprootCommitment controlBlock outputKey leafScript = true := by
    simp [reference, outputKey, controlBlock]
  have utxos : ∀ (list : List Psbt) (start : Nat),
      List.Forall₂ (fun (entry : PsbtInput × Nat) out =>
        orError s!"input {entry.2} has no witness_utxo" entry.1.witnessUtxo = .ok out)
        ((list.map fun _ => input).zipIdx start) (list.map fun _ => utxo) := by
    intro list
    induction list with
    | nil => exact fun _ => .nil
    | cons head tail ih => exact fun start => .cons rfl (ih (start + 1))
  have sighash : reference.scriptSpendSighash (arkTx (first :: others)).unsignedTx 0
      ((first :: others).map fun _ => utxo) leafHash = .ok message := by
    simp [reference, arkTx, message, leafHash]
  have recorded : (cosigned (first :: others)).sigAt 0 (options.server, leafHash) =
      some serverSignature := by
    simp [Psbt.sigAt, cosigned, Psbt.insertSig, PsbtInput.insertSig, arkTx]
  have present : Spend.inputAt (arkTx (first :: others)) 0 = .ok input := rfl
  have unsignedTx : (cosigned (first :: others)).unsignedTx =
      (arkTx (first :: others)).unsignedTx := rfl
  have default : serverSignature.sighashType = .default := rfl
  have known : input.witnessUtxo = some utxo := rfl
  have checked := coSigned_of present leaf keys known taproot (keyFromSlice_serialize outputKey)
    committed (Results.mapM_eq_ok_iff.mpr (utxos (first :: others) 0)) sighash unsignedTx recorded
    default (verifySchnorr_referenceSignature message options.server)
  exact Spend.verifyServerArkTxSig_eq_ok_iff.mpr ⟨_, _, _, _, checked, rfl⟩

end

end Sample
end ArkadeEscrow
