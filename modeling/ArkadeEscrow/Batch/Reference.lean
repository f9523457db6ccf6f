import ArkadeEscrow.Batch.Traces
import ArkadeEscrow.Reference

/-!
# A reference library for ceremonies

`BatchLib.reference` fills in what `BatchLib` takes as parameters, for trees of a single
node: a graph is its root, a nonce is known by the txid of its node, and signing a node uses
up its nonce. `emits_sample` is a ceremony against a server that may leave the nonces of the
tree out.
-/

set_option autoImplicit false

namespace ArkadeEscrow
namespace Batch

open Interaction

noncomputable section

/-- A forfeit with the output of its connector as one more input. -/
def withConnector (forfeit connector : Psbt) : Psbt where
  unsignedTx := { forfeit.unsignedTx with
    input := forfeit.unsignedTx.input ++
      [⟨⟨BitcoinLib.reference.computeTxid connector.unsignedTx, 0⟩, [], 0xffffffff, []⟩] }
  inputs := forfeit.inputs ++ [⟨connector.unsignedTx.output.head?, none, ∅, ∅⟩]

/-- The signature of a node, for its nonce. -/
def useNonce (txid : Txid) (nonces : List Txid) :
    Except String (BTreeMap Txid Unit × List Txid) :=
  if txid ∈ nonces then .ok ((∅ : BTreeMap Txid Unit).insert txid (), nonces.erase txid)
  else .error "missing nonce"

theorem useNonce_cons_self (txid : Txid) (nonces : List Txid) :
    useNonce txid (txid :: nonces) = .ok ((∅ : BTreeMap Txid Unit).insert txid (), nonces) := by
  simp [useNonce]

theorem mem_of_useNonce {txid : Txid} {nonces nonces' : List Txid} {sigs : BTreeMap Txid Unit}
    (used : useNonce txid nonces = .ok (sigs, nonces')) : txid ∈ sigs := by
  rw [useNonce] at used
  split at used
  · obtain ⟨rfl, rfl⟩ := Prod.mk.inj (Except.ok.inj used)
    simp
  · cases used

/-- A library for trees of a single node. -/
def BatchLib.reference : BatchLib where
  IntentMessage := Unit
  TxGraphChunk := Psbt
  TxGraph := Psbt
  NonceKps := List Txid
  NoncePks := List Txid
  PublicNonce := Unit
  AggregatedNonce := Unit
  PartialSignature := Unit
  Entropy := Unit
  sha256 := id
  newTxGraph
    | [root] => .ok root
    | _ => .error "not a single root"
  nbOfNodes _ := 1
  nodeTxids root := [BitcoinLib.reference.computeTxid root.unsignedTx]
  leaves root := [root]
  root := id
  setSignature root _ := root
  apply root f := (f root).map Prod.fst
  generateNonceTree _ root _ _ := .ok [BitcoinLib.reference.computeTxid root.unsignedTx]
  toNoncePks := id
  aggregateNonces _ := ()
  signBatchTreeTx txid _ _ _ _ _ _ nonces := useNonce txid nonces
  completeForfeitTxs forfeits connectors :=
    if forfeits.length = connectors.length then .ok (List.zipWith withConnector forfeits connectors)
    else .error "connector count mismatch"

/-! ## A sample ceremony -/

namespace Sample

open ArkadeEscrow.Sample BitcoinLib

def info : Info := ⟨⟨⟨5⟩, false⟩⟩

def cosignerKp : Keypair := ⟨9, ⟨⟨6⟩, false⟩⟩

/-- One VTXO is given up. -/
def delegate : Delegate BatchLib.reference :=
  ⟨⟨checkpoint 0 ∅, ()⟩, [checkpoint 1 ∅], cosignerKp.publicKey⟩

/-- The only node of the VTXO tree. -/
def node : Psbt := checkpoint 2 ∅

def connector : Psbt := checkpoint 3 ∅

def commitmentTx : Psbt := checkpoint 4 ∅

/-- The nonces of the node, the own one among them. -/
def nonces : StreamItem BatchLib.reference :=
  .ok (.treeNonces "batch" (reference.computeTxid node.unsignedTx)
    ((∅ : BTreeMap XOnlyPublicKey Unit).insert cosignerKp.publicKey.xOnly ()))

/-- A batch from its start to its end, with some items in the signing phase. -/
def batch (signing : List (StreamItem BatchLib.reference)) : List (StreamItem BatchLib.reference) :=
  .ok (.batchStarted "batch" [intentIdHash BatchLib.reference "intent"] 144) ::
  .ok (.treeTx .vtxo node) ::
  .ok (.treeTx .connector connector) ::
  .ok (.treeSigningStarted "batch" [cosignerKp.publicKey] commitmentTx) ::
  (signing ++ [.ok .batchFinalization])

/-- What the loop shows until the tree can be signed. -/
def joined : List (Event (interface BatchLib.reference)) :=
  [.sent (.confirmRegistration "intent"), .answered (.confirmRegistration "intent") (.ok ()),
    .sent .random, .answered .random (),
    .sent (.submitTreeNonces "batch" cosignerKp.publicKey
      [reference.computeTxid node.unsignedTx]),
    .answered (.submitTreeNonces "batch" cosignerKp.publicKey
      [reference.computeTxid node.unsignedTx]) (.ok ())]

/-- The loop when the tree can be signed. -/
def signingState : State BatchLib.reference where
  step := .batchSigningStarted
  batchId := some "batch"
  unsignedCommitmentTx := some commitmentTx
  vtxoGraphChunks := none
  vtxoGraph := some node
  connectorsGraphChunks := some [connector]
  batchExpiry := some 144
  aggNoncePks := ∅
  ourNonceTrees := some [reference.computeTxid node.unsignedTx]

/-- The loop when all nodes have been sent. -/
def collected : State BatchLib.reference := { signingState with
  step := .batchStarted
  unsignedCommitmentTx := none
  vtxoGraphChunks := some [node]
  vtxoGraph := none
  ourNonceTrees := none }

def signatures : PartialSigTree BatchLib.reference :=
  ∅ ∪ (∅ : BTreeMap Txid Unit).insert (reference.computeTxid node.unsignedTx) ()

def signed : List (Event (interface BatchLib.reference)) :=
  [.sent (.submitTreeSignatures "batch" cosignerKp.publicKey signatures),
    .answered (.submitTreeSignatures "batch" cosignerKp.publicKey signatures) (.ok ())]

def forfeits : List Psbt := [withConnector (checkpoint 1 ∅) connector]

theorem emits_joined {stream : List (StreamItem BatchLib.reference)}
    {events : List (Event (interface BatchLib.reference))}
    (rest : Emits (eventLoop reference info delegate cosignerKp "intent" signingState stream).run
      events) :
    Emits (eventLoop reference info delegate cosignerKp "intent" (.initial BatchLib.reference)
      (.ok (.batchStarted "batch" [intentIdHash BatchLib.reference "intent"] 144) ::
        .ok (.treeTx .vtxo node) :: .ok (.treeTx .connector connector) ::
        .ok (.treeSigningStarted "batch" [cosignerKp.publicKey] commitmentTx) :: stream)).run
      (joined ++ events) := by
  have included : [intentIdHash BatchLib.reference "intent"].contains
      (intentIdHash BatchLib.reference "intent") = true := by simp
  have cosigns : [cosignerKp.publicKey].contains cosignerKp.publicKey = true := by simp
  have built : BatchLib.reference.newTxGraph [node] = .ok node := rfl
  have generated : BatchLib.reference.generateNonceTree () node cosignerKp.publicKey commitmentTx =
    .ok [reference.computeTxid node.unsignedTx] := rfl
  -- The two tree nodes are answered with nothing.
  show Emits _ (joined.take 2 ++ ([] ++ ([] ++ (joined.drop 2 ++ events))))
  refine emits_eventLoop_cons (returns_onBatchStarted rfl included) ?_
  refine emits_eventLoop_cons (returns_onTreeTx_vtxo rfl rfl) ?_
  refine emits_eventLoop_cons (returns_onTreeTx_connector (.inl rfl) rfl) ?_
  have start := @returns_onTreeSigningStarted BatchLib.reference cosignerKp collected "batch"
    [cosignerKp.publicKey] commitmentTx [node] node _ () rfl rfl built cosigns generated
  exact emits_eventLoop_cons start rest

theorem emits_forfeits {s : State BatchLib.reference} (step : s.step = .batchSigningStarted)
    (chunks : s.connectorsGraphChunks = some [connector]) :
    Emits (eventLoop reference info delegate cosignerKp "intent" s [.ok .batchFinalization]).run
      [.sent (.submitSignedForfeitTxs forfeits none)] :=
  emits_eventLoop_head (emits_onBatchFinalization step chunks (List.cons_ne_nil _ _) rfl rfl)

theorem own_mem_nonces : cosignerKp.publicKey.xOnly ∈
    (∅ : BTreeMap XOnlyPublicKey Unit).insert cosignerKp.publicKey.xOnly () :=
  Std.ExtTreeMap.mem_insert_self

/-- With the nonces, the tree is signed before the forfeits are sent. -/
theorem emits_signed :
    Emits (eventLoop reference info delegate cosignerKp "intent" signingState
      [nonces, .ok .batchFinalization]).run
      (signed ++ [.sent (.submitSignedForfeitTxs forfeits none)]) := by
  have complete :
      ((∅ : BTreeMap Txid Unit).insert (reference.computeTxid node.unsignedTx) ()).size =
        BatchLib.reference.nbOfNodes node := by
    simp [Std.ExtTreeMap.size_insert, BatchLib.reference]
  have nonce : ((∅ : BTreeMap Txid Unit).insert (reference.computeTxid node.unsignedTx) ())[
      reference.computeTxid node.unsignedTx]? = some () := by simp
  have signs : BatchLib.reference.signBatchTreeTx (reference.computeTxid node.unsignedTx) 144
      info.forfeitPk.xOnly cosignerKp () node commitmentTx
      [reference.computeTxid node.unsignedTx] =
      .ok ((∅ : BTreeMap Txid Unit).insert (reference.computeTxid node.unsignedTx) (), []) :=
    useNonce_cons_self (reference.computeTxid node.unsignedTx) []
  have nodes : signNodes info.forfeitPk.xOnly cosignerKp 144 commitmentTx node
      ((∅ : BTreeMap Txid Unit).insert (reference.computeTxid node.unsignedTx) ())
      (BatchLib.reference.nodeTxids node)
      (∅, [reference.computeTxid node.unsignedTx]) = .ok (signatures, []) :=
    (signNodes_cons nonce signs).trans rfl
  have sign := @returns_onTreeNonces_last BatchLib.reference cosignerKp signingState
    info.forfeitPk.xOnly "batch" (reference.computeTxid node.unsignedTx) _ node _ _ commitmentTx 144
    _ rfl own_mem_nonces rfl complete rfl rfl rfl nodes
  exact emits_eventLoop_cons sign (emits_forfeits rfl rfl)

/-- What the ceremony over a batch shows until the tree can be signed. -/
def opening (topics : List String) (signing : List (StreamItem BatchLib.reference)) :
    List (Event (interface BatchLib.reference)) :=
  [.sent (.registerIntent delegate.intent),
    .answered (.registerIntent delegate.intent) (.ok "intent"),
    .sent (.getEventStream topics), .answered (.getEventStream topics) (.ok (batch signing))] ++
      joined

theorem emits_ceremony (signing : List (StreamItem BatchLib.reference))
    {events : List (Event (interface BatchLib.reference))}
    (rest : Emits (eventLoop reference info delegate cosignerKp "intent" signingState
      (signing ++ [.ok .batchFinalization])).run events) :
    ∃ topics, Emits (settleDelegate reference info delegate cosignerKp).run
      (opening topics signing ++ events) := by
  obtain ⟨topics, run⟩ := emits_settleDelegate (batch signing) rfl rfl (emits_joined rest)
  exact ⟨topics, by rwa [opening, List.append_assoc]⟩

end Sample
end

end Batch
end ArkadeEscrow
