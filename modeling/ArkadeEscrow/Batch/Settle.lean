import ArkadeEscrow.Batch.Interface

/-!
# The batch ceremony

`settleDelegate` registers the signed intent, opens the event stream and runs `eventLoop`
over it. The loop is a state machine: `step` says how far the ceremony has come, and the
other fields hold what earlier events brought. An event that does not fit the step is
skipped. Each arm of the loop is a function of its own here, and `onEvent` is the `match`
over the events.

The client has one cosigner key, so the loops of the source over its own keys run once.
-/

set_option autoImplicit false

namespace ArkadeEscrow
namespace Batch

open Interaction

/-- `batch::Delegate`: the signed intent and forfeits. -/
structure Delegate (L : BatchLib) where
  intent : Intent L
  forfeitPsbts : List Psbt
  delegateCosignerPk : PublicKey

/-- `server::Info`, as far as the ceremony reads it. -/
structure Info where
  forfeitPk : PublicKey

inductive Step where
  | start
  | batchStarted
  | batchSigningStarted
  | finalized
  deriving DecidableEq

/-- The variables of the loop. -/
structure State (L : BatchLib) where
  step : Step
  batchId : Option String
  unsignedCommitmentTx : Option Psbt
  vtxoGraphChunks : Option (List L.TxGraphChunk)
  vtxoGraph : Option L.TxGraph
  connectorsGraphChunks : Option (List L.TxGraphChunk)
  batchExpiry : Option UInt32
  aggNoncePks : BTreeMap Txid L.AggregatedNonce
  ourNonceTrees : Option L.NonceKps

/-- The variables before the first event. -/
def State.initial (L : BatchLib) : State L where
  step := .start
  batchId := none
  unsignedCommitmentTx := none
  vtxoGraphChunks := some []
  vtxoGraph := none
  connectorsGraphChunks := some []
  batchExpiry := none
  aggNoncePks := ∅
  ourNonceTrees := none

/-- What an arm of the loop does at its end: it goes on, or returns the commitment txid. -/
inductive Turn (L : BatchLib) where
  | next (state : State L)
  | finished (commitmentTxid : Txid)

variable {L : BatchLib} (B : BitcoinLib)

/-- The first inputs of the forfeits. -/
def forfeitInputOutpoints (forfeitPsbts : List Psbt) : Except Error (List OutPoint) :=
  forfeitPsbts.zipIdx.mapM fun (psbt, i) =>
    (orError s!"forfeit PSBT {i} has no inputs" psbt.unsignedTx.input.head?).map
      (·.previousOutput)

/-- `OutPoint::to_string`. -/
def outPointText (outpoint : OutPoint) : String :=
  s!"{B.txidToString outpoint.txid}:{outpoint.vout}"

/-- The hash by which a batch refers to an intent. -/
def intentIdHash (L : BatchLib) (intentId : String) : String :=
  toLowerHex (L.sha256 intentId.toUTF8.data.toList)

/-! ## The arms of the loop -/

/-- A batch has started: join it if it includes the own intent. -/
def onBatchStarted (intentId : String) (s : State L) (id : String)
    (intentIdHashes : List String) (batchExpiry : UInt32) : Action L (Turn L) :=
  if s.step ≠ .start then return .next s
  else if intentIdHashes.contains (intentIdHash L intentId) then do
    confirmRegistration L intentId
    return .next { s with
      batchId := some id
      batchExpiry := some batchExpiry
      step := .batchStarted }
  else return .next s

/-- A node of the VTXO tree or of the connector tree. -/
def onTreeTx (s : State L) (batchTreeEventType : BatchTreeEventType)
    (txGraphChunk : L.TxGraphChunk) : Action L (Turn L) :=
  if s.step ≠ .batchStarted ∧ s.step ≠ .batchSigningStarted then return .next s
  else match batchTreeEventType with
    | .vtxo => do
        let chunks ← check L (orError "unexpected VTXO graph chunk" s.vtxoGraphChunks)
        return .next { s with vtxoGraphChunks := some (chunks ++ [txGraphChunk]) }
    | .connector => do
        let chunks ← check L (orError "unexpected connector graph chunk" s.connectorsGraphChunks)
        return .next { s with connectorsGraphChunks := some (chunks ++ [txGraphChunk]) }

/-- `graph.apply(..)` with the closure that records a signature on the node it is for. -/
def recordSignature (graph : L.TxGraph) (txid : Txid) (signature : SchnorrSignature) :
    Except String L.TxGraph :=
  L.apply graph fun graph =>
    if B.computeTxid (L.root graph).unsignedTx ≠ txid then .ok (graph, true)
    else .ok (L.setSignature graph signature, false)

/-- The full signature of a node of the VTXO tree. -/
def onTreeSignature (s : State L) (batchTreeEventType : BatchTreeEventType) (txid : Txid)
    (signature : SchnorrSignature) : Action L (Turn L) :=
  if s.step ≠ .batchSigningStarted then return .next s
  else match batchTreeEventType, s.vtxoGraph with
    | .vtxo, some graph => do
        let graph ← check L (ofDisplay (recordSignature B graph txid signature))
        return .next { s with vtxoGraph := some graph }
    | .vtxo, none | .connector, _ => return .next s

/-- All nodes of the VTXO tree have been sent: submit a nonce for each. -/
def onTreeSigningStarted (cosignerKp : Keypair) (s : State L) (id : String)
    (cosignersPubkeys : List PublicKey) (unsignedCommitmentTx : Psbt) : Action L (Turn L) :=
  if s.step ≠ .batchStarted then return .next s
  else do
    let chunks ← check L (orError "signing started without VTXO graph" s.vtxoGraphChunks)
    let graph ← check L (printed "building VTXO graph" (L.newTxGraph chunks))
    check L (ensure (cosignersPubkeys.contains cosignerKp.publicKey)
      s!"own cosigner PK not in batch cosigners: {cosignerKp.publicKey.text}")
    let entropy ← random L
    let nonceTree ← check L (printed "generating nonce tree"
      (L.generateNonceTree entropy graph cosignerKp.publicKey unsignedCommitmentTx))
    submitTreeNonces L id cosignerKp.publicKey (L.toNoncePks nonceTree)
    return .next { s with
      vtxoGraphChunks := none
      vtxoGraph := some graph
      unsignedCommitmentTx := some unsignedCommitmentTx
      ourNonceTrees := some nonceTree
      step := .batchSigningStarted }

/-- Sign the nodes with these txids. The signatures so far and the nonces that are left are
passed along; in the union, as in `extend`, the later signature of a txid stays. -/
def signNodes (forfeitPk : XOnlyPublicKey) (cosignerKp : Keypair) (expiry : UInt32)
    (commitTx : Psbt) (graph : L.TxGraph) (aggNoncePks : BTreeMap Txid L.AggregatedNonce) :
    List Txid → PartialSigTree L × L.NonceKps → Except Error (PartialSigTree L × L.NonceKps)
  | [], progress => .ok progress
  | txid :: txids, (partialSigs, nonceTree) => do
      let aggNoncePk ← orError "missing agg nonce for TX" aggNoncePks[txid]?
      let (sigs, nonceTree) ← printed "signing VTXO tree"
        (L.signBatchTreeTx txid expiry forfeitPk cosignerKp aggNoncePk graph commitTx nonceTree)
      signNodes forfeitPk cosignerKp expiry commitTx graph aggNoncePks txids
        (partialSigs ∪ sigs, nonceTree)

/-- The nonces of all cosigners for one node. With the last of them the tree is signed. -/
def onTreeNonces (forfeitPk : XOnlyPublicKey) (cosignerKp : Keypair) (s : State L) (id : String)
    (txid : Txid) (nonces : BTreeMap XOnlyPublicKey L.PublicNonce) : Action L (Turn L) :=
  if s.step ≠ .batchSigningStarted then return .next s
  else if nonces.contains cosignerKp.publicKey.xOnly then do
    let s := { s with aggNoncePks := s.aggNoncePks.insert txid (L.aggregateNonces nonces) }
    let graph ← check L (orError "tree nonces received before signing started" s.vtxoGraph)
    if s.aggNoncePks.size = L.nbOfNodes graph then do
      let nonceTree ← check L (orError "missing nonce trees" s.ourNonceTrees)
      let commitTx ← check L (orError "missing commitment TX" s.unsignedCommitmentTx)
      let expiry ← check L (orError "missing batch expiry" s.batchExpiry)
      let (partialSigs, nonceTree) ← check L (signNodes forfeitPk cosignerKp expiry commitTx graph
        s.aggNoncePks (L.nodeTxids graph) (∅, nonceTree))
      submitTreeSignatures L id cosignerKp.publicKey partialSigs
      return .next { s with ourNonceTrees := some nonceTree }
    else return .next s
  else return .next s

/-- The batch is about to be finalized: give up the old VTXOs. -/
def onBatchFinalization (delegate : Delegate L) (s : State L) : Action L (Turn L) :=
  if s.step ≠ .batchSigningStarted then return .next s
  else do
    let chunks ← check L (orError "finalization without connectors" s.connectorsGraphChunks)
    if !chunks.isEmpty then do
      let connectors ← check L (printed "building connectors graph" (L.newTxGraph chunks))
      let signedForfeits ← check L (printed "completing forfeit TXs"
        (L.completeForfeitTxs delegate.forfeitPsbts (L.leaves connectors)))
      submitSignedForfeitTxs L signedForfeits none
    return .next { s with connectorsGraphChunks := none, step := .finalized }

def onBatchFinalized (s : State L) (commitmentTxid : Txid) : Turn L :=
  if s.step ≠ .finalized then .next s else .finished commitmentTxid

def onBatchFailed (s : State L) (id reason : String) : Except Error (Turn L) :=
  if some id = s.batchId then .error (.msg s!"batch failed {id}: {reason}") else .ok (.next s)

/-- One turn of the loop. -/
def onEvent (info : Info) (delegate : Delegate L) (cosignerKp : Keypair) (intentId : String)
    (s : State L) : StreamEvent L → Action L (Turn L)
  | .streamStarted | .treeNoncesAggregated | .heartbeat => return .next s
  | .batchStarted id intentIdHashes batchExpiry =>
      onBatchStarted intentId s id intentIdHashes batchExpiry
  | .treeTx batchTreeEventType txGraphChunk => onTreeTx s batchTreeEventType txGraphChunk
  | .treeSignature batchTreeEventType txid signature =>
      onTreeSignature B s batchTreeEventType txid signature
  | .treeSigningStarted id cosignersPubkeys unsignedCommitmentTx =>
      onTreeSigningStarted cosignerKp s id cosignersPubkeys unsignedCommitmentTx
  | .treeNonces id txid nonces => onTreeNonces info.forfeitPk.xOnly cosignerKp s id txid nonces
  | .batchFinalization => onBatchFinalization delegate s
  | .batchFinalized _ commitmentTxid => return onBatchFinalized s commitmentTxid
  | .batchFailed id reason => check L (onBatchFailed s id reason)

/-- The loop over the stream, from some state on. -/
def eventLoop (info : Info) (delegate : Delegate L) (cosignerKp : Keypair) (intentId : String) :
    State L → List (StreamItem L) → Action L Txid
  | _, [] => throw (.msg "event stream ended unexpectedly")
  | _, .error e :: _ => throw (.msg s!"event stream error: {e}")
  | s, .ok event :: stream => do
      match ← onEvent B info delegate cosignerKp intentId s event with
      | .next s => eventLoop info delegate cosignerKp intentId s stream
      | .finished commitmentTxid => return commitmentTxid

/-- Register the signed intent and settle it in a batch. -/
def settleDelegate (info : Info) (delegate : Delegate L) (cosignerKp : Keypair) :
    Action L Txid := do
  check L (ensure (cosignerKp.publicKey == delegate.delegateCosignerPk)
    "cosigner keypair does not match delegate_cosigner_pk")
  let vtxoInputOutpoints ← check L (forfeitInputOutpoints delegate.forfeitPsbts)
  let intentId ← registerIntent L delegate.intent
  let topics := vtxoInputOutpoints.map (outPointText B) ++ [cosignerKp.publicKey.text]
  let stream ← getEventStream L topics
  eventLoop B info delegate cosignerKp intentId (.initial L) stream

end Batch
end ArkadeEscrow
