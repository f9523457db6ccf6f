import ArkadeEscrow.Bitcoin
import ArkadeEscrow.Interaction.Program
import ArkadeEscrow.SpendStore

/-!
# What a batch ceremony exchanges with the server

A ceremony registers an intent, opens the event stream, and answers some of the events with
messages of its own. The whole stream is the answer to `getEventStream`: a list that ends
where the stream does. The server may put any events into it, in any order, and may answer
any message with an error.

`BatchLib` collects the types and functions of other crates that the ceremony uses. The
values that it only passes on are types of the library, and errors are the texts they print.
-/

set_option autoImplicit false

namespace ArkadeEscrow

/-- `secp256k1::PublicKey`, in its compressed form. -/
structure PublicKey where
  /-- `x_only_public_key().0`. -/
  xOnly : XOnlyPublicKey
  /-- The second coordinate is odd. -/
  odd : Bool
  deriving DecidableEq

namespace PublicKey

/-- `PublicKey::serialize`: 33 bytes. -/
def serialize (key : PublicKey) : List UInt8 :=
  (if key.odd then 0x03 else 0x02) :: key.xOnly.serialize

/-- `PublicKey::to_string`. -/
def text (key : PublicKey) : String := toLowerHex key.serialize

end PublicKey

/-- `secp256k1::Keypair`. -/
structure Keypair where
  secretKey : BitVec 256
  publicKey : PublicKey
  deriving DecidableEq

namespace Batch

open Interaction

/-- The types and functions of other crates that a batch ceremony uses. -/
structure BatchLib where
  /-- `intent::IntentMessage`. -/
  IntentMessage : Type
  /-- `TxGraphChunk`. -/
  TxGraphChunk : Type
  /-- `TxGraph`. -/
  TxGraph : Type
  /-- `NonceKps`: the own nonces of a tree, secret ones included. -/
  NonceKps : Type
  /-- `NoncePks`: the public ones. -/
  NoncePks : Type
  /-- The public nonce of one cosigner for one node. -/
  PublicNonce : Type
  /-- The aggregated nonce of a node. -/
  AggregatedNonce : Type
  /-- The partial signature of one cosigner for one node. -/
  PartialSignature : Type
  /-- What a draw from the random number generator yields. -/
  Entropy : Type
  /-- `sha256::Hash::hash`. -/
  sha256 : List UInt8 → List UInt8
  /-- `TxGraph::new`. -/
  newTxGraph : List TxGraphChunk → Except String TxGraph
  /-- `TxGraph::nb_of_nodes`. -/
  nbOfNodes : TxGraph → Nat
  /-- The keys of `TxGraph::as_map`, in the order in which it is iterated. -/
  nodeTxids : TxGraph → List Txid
  /-- `TxGraph::leaves`. -/
  leaves : TxGraph → List Psbt
  /-- `TxGraph::root`. -/
  root : TxGraph → Psbt
  /-- `TxGraph::set_signature`. -/
  setSignature : TxGraph → SchnorrSignature → TxGraph
  /-- `TxGraph::apply`: the closure sees a graph, may change it, and says whether to go on
  with the graphs below it. -/
  apply : TxGraph → (TxGraph → Except String (TxGraph × Bool)) → Except String TxGraph
  /-- `generate_nonce_tree`. -/
  generateNonceTree : Entropy → TxGraph → PublicKey → Psbt → Except String NonceKps
  /-- `NonceKps::to_nonce_pks`. -/
  toNoncePks : NonceKps → NoncePks
  /-- `aggregate_nonces`. -/
  aggregateNonces : BTreeMap XOnlyPublicKey PublicNonce → AggregatedNonce
  /-- `sign_batch_tree_tx`: the partial signatures, and the own nonces that are left. -/
  signBatchTreeTx : Txid → UInt32 → XOnlyPublicKey → Keypair → AggregatedNonce → TxGraph →
    Psbt → NonceKps → Except String (BTreeMap Txid PartialSignature × NonceKps)
  /-- `complete_delegate_forfeit_txs`. -/
  completeForfeitTxs : List Psbt → List Psbt → Except String (List Psbt)

variable (L : BatchLib)

/-- `intent::Intent`. -/
structure Intent where
  proof : Psbt
  message : L.IntentMessage

/-- `BatchTreeEventType`. -/
inductive BatchTreeEventType where
  | vtxo
  | connector
  deriving DecidableEq

/-- `StreamEvent`, with the fields that the ceremony reads. -/
inductive StreamEvent where
  | streamStarted
  | batchStarted (id : String) (intentIdHashes : List String) (batchExpiry : UInt32)
  | treeTx (batchTreeEventType : BatchTreeEventType) (txGraphChunk : L.TxGraphChunk)
  | treeSignature (batchTreeEventType : BatchTreeEventType) (txid : Txid)
      (signature : SchnorrSignature)
  | treeSigningStarted (id : String) (cosignersPubkeys : List PublicKey)
      (unsignedCommitmentTx : Psbt)
  | treeNonces (id : String) (txid : Txid) (nonces : BTreeMap XOnlyPublicKey L.PublicNonce)
  | treeNoncesAggregated
  | batchFinalization
  | batchFinalized (id : String) (commitmentTxid : Txid)
  | batchFailed (id reason : String)
  | heartbeat

/-- One item of the event stream. -/
abbrev StreamItem := Except String (StreamEvent L)

/-- `PartialSigTree`. -/
abbrev PartialSigTree := BTreeMap Txid L.PartialSignature

inductive Ask where
  | registerIntent (intent : Intent L)
  | deleteIntent (intent : Intent L)
  | getEventStream (topics : List String)
  | confirmRegistration (intentId : String)
  | random
  | submitTreeNonces (batchId : String) (cosignerPk : PublicKey) (noncePks : L.NoncePks)
  | submitTreeSignatures (batchId : String) (cosignerPk : PublicKey)
      (partialSigs : PartialSigTree L)
  | submitSignedForfeitTxs (signedForfeitTxs : List Psbt) (signedCommitmentTx : Option Psbt)

variable {L} in
def Ask.isRegister : Ask L → Bool
  | .registerIntent _ => true
  | _ => false

variable {L} in
def Ask.isDelete : Ask L → Bool
  | .deleteIntent _ => true
  | _ => false

/-- The answers to a request. -/
abbrev Ask.Answer : Ask L → Type
  | .registerIntent _ => Except String String
  | .getEventStream _ => Except String (List (StreamItem L))
  | .random => L.Entropy
  | .deleteIntent _ | .confirmRegistration _ | .submitTreeNonces _ _ _
  | .submitTreeSignatures _ _ _ | .submitSignedForfeitTxs _ _ => Except String Unit

/-- The interface of a batch ceremony. -/
abbrev interface : Interface := ⟨Empty, Ask L, Ask.Answer L⟩

/-- A step of a ceremony that can fail. -/
abbrev Action (α : Type) := Fallible (interface L) Error α

/-! ## The requests as actions -/

/-- A computation of the ceremony's own. -/
def check {α : Type} (r : Except Error α) : Action L α := ExceptT.mk (.done r)

/-- `result.map_err(|e| anyhow!("{e:#}")).context(text)`. -/
def printed {α : Type} (text : String) (r : Except String α) : Except Error α :=
  withContext text (ofDisplay r)

@[simp] theorem printed_eq_ok_iff {α : Type} {text : String} {r : Except String α} {a : α} :
    printed text r = .ok a ↔ r = .ok a := by
  simp [printed]

def registerIntent (intent : Intent L) : Action L String :=
  ExceptT.mk (printed "registering delegated intent" <$>
    Program.request (I := interface L) (.registerIntent intent))

def getEventStream (topics : List String) : Action L (List (StreamItem L)) :=
  ExceptT.mk (printed "getting event stream" <$>
    Program.request (I := interface L) (.getEventStream topics))

def confirmRegistration (intentId : String) : Action L Unit :=
  ExceptT.mk (printed "confirming intent registration" <$>
    Program.request (I := interface L) (.confirmRegistration intentId))

def random : Action L L.Entropy := ExceptT.lift (Program.request (I := interface L) .random)

def submitTreeNonces (batchId : String) (cosignerPk : PublicKey) (noncePks : L.NoncePks) :
    Action L Unit :=
  ExceptT.mk (printed "submitting nonce tree" <$>
    Program.request (I := interface L) (.submitTreeNonces batchId cosignerPk noncePks))

def submitTreeSignatures (batchId : String) (cosignerPk : PublicKey)
    (partialSigs : PartialSigTree L) : Action L Unit :=
  ExceptT.mk (printed "submitting tree signatures" <$>
    Program.request (I := interface L) (.submitTreeSignatures batchId cosignerPk partialSigs))

def submitSignedForfeitTxs (signedForfeitTxs : List Psbt) (signedCommitmentTx : Option Psbt) :
    Action L Unit :=
  ExceptT.mk (printed "submitting forfeit TXs" <$>
    Program.request (I := interface L)
      (.submitSignedForfeitTxs signedForfeitTxs signedCommitmentTx))

end Batch
end ArkadeEscrow
