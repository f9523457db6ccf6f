import ArkadeEscrow.Data.OrderedMap
import ArkadeEscrow.Error
import Mathlib.Algebra.Group.Nat.Defs

/-!
# Transactions and PSBTs

The data the escrow passes around, field by field as the `bitcoin` crate has it, less the
PSBT fields that no function of the escrow reads. Keys, hashes, messages and signatures
are their bytes. `BitcoinLib` collects the functions of other crates that the escrow
calls on this data; their errors are the texts they print. Nothing is known about them
but what a theorem states as a hypothesis: `PsbtRoundTrips` and `TxidRoundTrips` are the
two round trips it relies on. The first of them is for well-formed PSBTs, as they are built
and decoded (`Psbt.WellFormed`).
-/

set_option autoImplicit false

open Std

namespace ArkadeEscrow

/-- A transaction id: 32 bytes. -/
structure Txid where
  digest : BitVec 256
  deriving DecidableEq

/-- An x-only public key: the 32 bytes of its coordinate. -/
structure XOnlyPublicKey where
  coordinate : BitVec 256
  deriving DecidableEq

/-- `XOnlyPublicKey::serialize`: 32 bytes, the highest first. -/
def XOnlyPublicKey.serialize (key : XOnlyPublicKey) : List UInt8 :=
  List.ofFn fun i : Fin 32 => UInt8.ofNat (key.coordinate.toNat / 256 ^ (31 - i.val))

/-- The tagged hash of a leaf: 32 bytes. -/
structure TapLeafHash where
  digest : BitVec 256
  deriving DecidableEq

/-- `secp256k1::Message`: the 32 bytes that are signed. -/
structure Message where
  digest : BitVec 256
  deriving DecidableEq

/-- `schnorr::Signature`: 64 bytes. -/
structure SchnorrSignature where
  bytes : BitVec 512
  deriving DecidableEq

/-- A script is its bytes. -/
abbrev ScriptBuf := List UInt8

/-- `taproot::LeafVersion`, as its consensus byte. -/
abbrev LeafVersion := UInt8

/-- `LeafVersion::TapScript`. -/
def leafVersionTapScript : LeafVersion := 0xc0

/-- An amount in satoshis. -/
structure Amount where
  sat : UInt64
  deriving DecidableEq

structure OutPoint where
  txid : Txid
  vout : UInt32
  deriving DecidableEq

structure TxIn where
  previousOutput : OutPoint
  scriptSig : ScriptBuf
  sequence : UInt32
  witness : List (List UInt8)
  deriving DecidableEq

structure TxOut where
  value : Amount
  scriptPubkey : ScriptBuf
  deriving DecidableEq

structure Transaction where
  version : Int32
  lockTime : UInt32
  input : List TxIn
  output : List TxOut
  deriving DecidableEq

inductive TapSighashType where
  | default | all | none | single
  | allPlusAnyoneCanPay | nonePlusAnyoneCanPay | singlePlusAnyoneCanPay
  deriving DecidableEq

/-- The derived `Debug` text. -/
def TapSighashType.debug : TapSighashType → String
  | .default => "Default"
  | .all => "All"
  | .none => "None"
  | .single => "Single"
  | .allPlusAnyoneCanPay => "AllPlusAnyoneCanPay"
  | .nonePlusAnyoneCanPay => "NonePlusAnyoneCanPay"
  | .singlePlusAnyoneCanPay => "SinglePlusAnyoneCanPay"

/-- `taproot::Signature`. -/
structure TaprootSignature where
  signature : SchnorrSignature
  sighashType : TapSighashType
  deriving DecidableEq

structure ControlBlock where
  leafVersion : LeafVersion
  outputKeyParity : Bool
  internalKey : XOnlyPublicKey
  merkleBranch : List (BitVec 256)
  deriving DecidableEq

/-! ## The orders of the map keys -/

instance : Ord Txid := ⟨compareOn Txid.digest⟩

instance : TransOrd Txid := inferInstanceAs (TransCmp (compareOn Txid.digest))

instance : LawfulEqOrd Txid :=
  lawfulEqCmp_compareOn Txid.digest fun a b same => by cases a; cases b; cases same; rfl

namespace OutPoint

/-- Field by field. -/
def compareFields : OutPoint → OutPoint → Ordering := compareLex (compareOn txid) (compareOn vout)

instance : TransCmp compareFields :=
  inferInstanceAs (TransCmp (compareLex (compareOn txid) (compareOn vout)))

instance : LawfulEqCmp compareFields where
  eq_of_compare {a b} same := by
    simp only [compareFields, compareLex_eq_eq, compareOn] at same
    cases a
    cases b
    simp only [mk.injEq]
    exact ⟨LawfulEqOrd.eq_of_compare same.1, LawfulEqOrd.eq_of_compare same.2⟩

instance : Ord OutPoint := ⟨compareFields⟩

instance : TransOrd OutPoint := inferInstanceAs (TransCmp compareFields)

instance : LawfulEqOrd OutPoint := inferInstanceAs (LawfulEqCmp compareFields)

end OutPoint

instance : Ord XOnlyPublicKey := ⟨compareOn XOnlyPublicKey.coordinate⟩

instance : TransOrd XOnlyPublicKey :=
  inferInstanceAs (TransCmp (compareOn XOnlyPublicKey.coordinate))

instance : LawfulEqOrd XOnlyPublicKey :=
  lawfulEqCmp_compareOn XOnlyPublicKey.coordinate fun a b same => by
    cases a; cases b; cases same; rfl

instance : Ord TapLeafHash := ⟨compareOn TapLeafHash.digest⟩

instance : TransOrd TapLeafHash := inferInstanceAs (TransCmp (compareOn TapLeafHash.digest))

instance : LawfulEqOrd TapLeafHash :=
  lawfulEqCmp_compareOn TapLeafHash.digest fun a b same => by
    cases a; cases b; cases same; rfl

/-- Whose signature, over which leaf. -/
abbrev SigKey := XOnlyPublicKey × TapLeafHash

instance : Ord SigKey := lexOrd

instance : TransOrd SigKey := instTransOrdProd

instance : LawfulEqOrd SigKey := instLawfulEqOrdProd

namespace ControlBlock

/-- The derived order of `LeafVersion` starts with its first variant, `TapScript`. The others
follow by their byte. -/
def isFuture (block : ControlBlock) : Bool := block.leafVersion != leafVersionTapScript

/-- Field by field, in the order of the fields. -/
def compareFields : ControlBlock → ControlBlock → Ordering :=
  compareLex (compareOn isFuture) <| compareLex (compareOn leafVersion) <|
    compareLex (compareOn outputKeyParity) <|
      compareLex (compareOn internalKey) (compareOn merkleBranch)

instance : TransCmp compareFields :=
  inferInstanceAs (TransCmp (compareLex (compareOn isFuture) <|
    compareLex (compareOn leafVersion) <| compareLex (compareOn outputKeyParity) <|
      compareLex (compareOn internalKey) (compareOn merkleBranch)))

instance : LawfulEqCmp compareFields where
  eq_of_compare {a b} same := by
    simp only [compareFields, compareLex_eq_eq, compareOn] at same
    obtain ⟨_, version, parity, key, branch⟩ := same
    cases a
    cases b
    simp only [mk.injEq]
    exact ⟨LawfulEqOrd.eq_of_compare version, LawfulEqOrd.eq_of_compare parity,
      LawfulEqOrd.eq_of_compare key, LawfulEqOrd.eq_of_compare branch⟩

instance : Ord ControlBlock := ⟨compareFields⟩

instance : TransOrd ControlBlock := inferInstanceAs (TransCmp compareFields)

instance : LawfulEqOrd ControlBlock := inferInstanceAs (LawfulEqCmp compareFields)

end ControlBlock

/-! ## PSBTs -/

/-- The input records of a PSBT, as far as the escrow reads them. -/
structure PsbtInput where
  witnessUtxo : Option TxOut
  witnessScript : Option ScriptBuf
  tapScriptSigs : BTreeMap SigKey TaprootSignature
  tapScripts : BTreeMap ControlBlock (ScriptBuf × LeafVersion)

structure Psbt where
  unsignedTx : Transaction
  inputs : List PsbtInput

/-- What `Psbt::from_unsigned_tx` builds and `Psbt::deserialize` returns: a record for each
input of the transaction, which is not signed itself. -/
structure Psbt.WellFormed (psbt : Psbt) : Prop where
  inputs : psbt.inputs.length = psbt.unsignedTx.input.length
  unsigned : ∀ input ∈ psbt.unsignedTx.input, input.scriptSig = [] ∧ input.witness = []

/-- The functions of other crates that the escrow calls. -/
structure BitcoinLib where
  /-- `Transaction::compute_txid`. -/
  computeTxid : Transaction → Txid
  /-- `Txid::to_string`. -/
  txidToString : Txid → String
  /-- `str::parse::<Txid>`. -/
  parseTxid : String → Except String Txid
  /-- `XOnlyPublicKey::to_string`. -/
  keyToString : XOnlyPublicKey → String
  /-- `XOnlyPublicKey::from_slice`. -/
  keyFromSlice : List UInt8 → Except String XOnlyPublicKey
  /-- `Psbt::serialize`. -/
  serialize : Psbt → List UInt8
  /-- `Psbt::deserialize`. -/
  deserialize : List UInt8 → Except String Psbt
  /-- The encoder of the standard base64 engine. -/
  base64Encode : List UInt8 → String
  /-- The decoder of the standard base64 engine. -/
  base64Decode : String → Except String (List UInt8)
  /-- `TapLeafHash::from_script`. -/
  leafHash : ScriptBuf → LeafVersion → TapLeafHash
  /-- `SighashCache::taproot_script_spend_signature_hash`, for all previous outputs and the
  default sighash type. -/
  scriptSpendSighash : Transaction → Nat → List TxOut → TapLeafHash → Except String Message
  /-- `Secp256k1::verify_schnorr`. -/
  verifySchnorr : SchnorrSignature → Message → XOnlyPublicKey → Except String Unit
  /-- `ControlBlock::verify_taproot_commitment`. -/
  verifyTaprootCommitment : ControlBlock → XOnlyPublicKey → ScriptBuf → Bool
  /-- `ark_core::script::extract_checksig_pubkeys`. -/
  extractChecksigPubkeys : ScriptBuf → List XOnlyPublicKey
  /-- The bytes that `script::Builder::push_int` appends. -/
  pushInt : Int → ScriptBuf
  /-- The bytes that `script::Builder::push_x_only_key` appends. -/
  pushXOnlyKey : XOnlyPublicKey → ScriptBuf

namespace BitcoinLib

variable (B : BitcoinLib)

/-- Encode a PSBT as a base64 string. -/
def psbtToBase64 (psbt : Psbt) : String := B.base64Encode (B.serialize psbt)

/-- Decode a base64 string into a PSBT. -/
def psbtFromBase64 (s : String) : Except Error Psbt := do
  let bytes ← withContext "base64 decode" (ofDisplay (B.base64Decode s))
  withContext "PSBT deserialize" (ofDisplay (B.deserialize bytes))

/-- Decoding the base64 text of a well-formed PSBT gives the PSBT back. -/
def PsbtRoundTrips : Prop :=
  ∀ psbt : Psbt, psbt.WellFormed → B.psbtFromBase64 (B.psbtToBase64 psbt) = .ok psbt

/-- Parsing the text of a transaction id gives the id back. -/
def TxidRoundTrips : Prop := ∀ txid, B.parseTxid (B.txidToString txid) = .ok txid

end BitcoinLib

end ArkadeEscrow
