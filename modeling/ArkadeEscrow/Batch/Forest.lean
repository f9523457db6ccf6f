import ArkadeEscrow.Batch.Reference

/-!
# A reference library for trees with several nodes

In `BatchLib.forest` a graph is the list of its nodes, the root first. The aggregated nonce of
a node is the sum of the nonces for it, and the signature with a nonce is that nonce. The own
nonces are those that are left. `turned_started` is a ceremony up to the start of the signing
of a tree with two nodes, and `turned_finalized` the rest of it.
-/

set_option autoImplicit false

namespace ArkadeEscrow
namespace Batch

open Interaction Protocol BitcoinLib

noncomputable section

def txidOf (psbt : Psbt) : Txid := reference.computeTxid psbt.unsignedTx

/-- The signature of a node with an aggregated nonce, if its own nonce is left. -/
def takeNonce (txid : Txid) (aggNoncePk : Nat) (nonces : List Txid) :
    Except String (BTreeMap Txid Nat × List Txid) :=
  if txid ∈ nonces then
    .ok ((∅ : BTreeMap Txid Nat).insert txid aggNoncePk, nonces.filter (· ≠ txid))
  else .error "missing nonce"

theorem takeNonce_eq_ok_iff {txid : Txid} {aggNoncePk : Nat} {nonces left : List Txid}
    {sigs : BTreeMap Txid Nat} : takeNonce txid aggNoncePk nonces = .ok (sigs, left) ↔
      txid ∈ nonces ∧ (∅ : BTreeMap Txid Nat).insert txid aggNoncePk = sigs ∧
        nonces.filter (· ≠ txid) = left := by
  rw [takeNonce]
  split
  · next here => simp [here]
  · next absent => simp [absent]

/-- A library for trees whose nodes have different txids. -/
def BatchLib.forest : BatchLib where
  IntentMessage := Unit
  TxGraphChunk := Psbt
  TxGraph := List Psbt
  NonceKps := List Txid
  NoncePks := List Txid
  PublicNonce := Nat
  AggregatedNonce := Nat
  PartialSignature := Nat
  Entropy := Unit
  sha256 := id
  newTxGraph chunks :=
    if chunks ≠ [] ∧ (chunks.map txidOf).Nodup then .ok chunks else .error "not a tree"
  nbOfNodes := List.length
  nodeTxids graph := graph.map txidOf
  leaves graph := if graph.length = 1 then graph else graph.tail
  root graph := graph.headD ⟨⟨0, 0, [], []⟩, []⟩
  setSignature graph _ := graph
  apply graph f := (f graph).map Prod.fst
  generateNonceTree _ graph _ _ := .ok (graph.map txidOf)
  toNoncePks := id
  aggregateNonces nonces := (nonces.toList.map Prod.snd).sum
  signBatchTreeTx txid _ _ _ aggNoncePk _ _ nonces := takeNonce txid aggNoncePk nonces
  completeForfeitTxs forfeits connectors :=
    if forfeits.length = connectors.length then .ok (List.zipWith withConnector forfeits connectors)
    else .error "connector count mismatch"

theorem newTxGraph_forest_eq_ok_iff {chunks graph : List Psbt} :
    BatchLib.forest.newTxGraph chunks = .ok graph ↔
      chunks = graph ∧ chunks ≠ [] ∧ (chunks.map txidOf).Nodup := by
  show (if chunks ≠ [] ∧ (chunks.map txidOf).Nodup then Except.ok chunks
    else .error "not a tree" : Except String (List Psbt)) = .ok graph ↔ _
  split
  · next isTree => simp [isTree]
  · next other =>
      constructor
      · rintro ⟨⟩
      · exact fun isTree => absurd isTree.2 other

/-! ## A sample ceremony -/

namespace Forest

open ArkadeEscrow.Sample

abbrev info : Info := Sample.info

abbrev cosignerKp : Keypair := Sample.cosignerKp

/-- One VTXO is given up. -/
def delegate : Delegate BatchLib.forest :=
  ⟨⟨checkpoint 0 ∅, ()⟩, [checkpoint 1 ∅], cosignerKp.publicKey⟩

def root : Psbt := checkpoint 2 ∅

def child : Psbt := checkpoint 5 ∅

def tree : List Psbt := [root, child]

def connector : Psbt := checkpoint 3 ∅

def commitmentTx : Psbt := checkpoint 4 ∅

/-- The nonce of the client, and another that depends on the node. -/
def noncesOf (txid : Txid) : BTreeMap XOnlyPublicKey Nat :=
  ((∅ : BTreeMap XOnlyPublicKey Nat).insert ⟨7⟩ txid.digest.toNat).insert
    cosignerKp.publicKey.xOnly 1

theorem own_mem_noncesOf (txid : Txid) : cosignerKp.publicKey.xOnly ∈ noncesOf txid :=
  Std.ExtTreeMap.mem_insert_self

theorem txidOf_ne : txidOf root ≠ txidOf child := by
  simp [txidOf, root, child, checkpoint, reference]

theorem newTxGraph_tree : BatchLib.forest.newTxGraph tree = .ok tree :=
  newTxGraph_forest_eq_ok_iff.mpr ⟨rfl, List.cons_ne_nil _ _, by simp [tree, txidOf_ne]⟩

theorem newTxGraph_connector : BatchLib.forest.newTxGraph [connector] = .ok [connector] :=
  newTxGraph_forest_eq_ok_iff.mpr ⟨rfl, List.cons_ne_nil _ _, List.nodup_singleton _⟩

def aggregatedNonce (txid : Txid) : Nat := BatchLib.forest.aggregateNonces (noncesOf txid)

/-- The nonces of both nodes. -/
def bothNonces : BTreeMap Txid Nat :=
  ((∅ : BTreeMap Txid Nat).insert (txidOf root) (aggregatedNonce (txidOf root))).insert
    (txidOf child) (aggregatedNonce (txidOf child))

/-- The signatures of both nodes. -/
def signatures : PartialSigTree BatchLib.forest :=
  (∅ ∪ (∅ : BTreeMap Txid Nat).insert (txidOf root) (aggregatedNonce (txidOf root))) ∪
    (∅ : BTreeMap Txid Nat).insert (txidOf child) (aggregatedNonce (txidOf child))

theorem signNodes_tree :
    signNodes info.forfeitPk.xOnly cosignerKp 144 commitmentTx tree bothNonces
      (BatchLib.forest.nodeTxids tree) (∅, [txidOf root, txidOf child]) = .ok (signatures, []) := by
  have known : bothNonces[txidOf root]? = some (aggregatedNonce (txidOf root)) := by
    rw [bothNonces, Std.ExtTreeMap.getElem?_insert]
    simp [Ne.symm txidOf_ne]
  have known' : bothNonces[txidOf child]? = some (aggregatedNonce (txidOf child)) := by
    simp [bothNonces]
  have first : takeNonce (txidOf root) (aggregatedNonce (txidOf root)) [txidOf root, txidOf child] =
      .ok ((∅ : BTreeMap Txid Nat).insert (txidOf root) (aggregatedNonce (txidOf root)),
        [txidOf child]) := by
    simp [takeNonce, Ne.symm txidOf_ne]
  have second : takeNonce (txidOf child) (aggregatedNonce (txidOf child)) [txidOf child] =
      .ok ((∅ : BTreeMap Txid Nat).insert (txidOf child) (aggregatedNonce (txidOf child)), []) := by
    simp [takeNonce]
  exact (signNodes_cons known first).trans ((signNodes_cons known' second).trans rfl)

/-- The loop when it has sent its nonces. -/
def signingState : State BatchLib.forest where
  step := .batchSigningStarted
  batchId := some "batch"
  unsignedCommitmentTx := some commitmentTx
  vtxoGraphChunks := none
  vtxoGraph := some tree
  connectorsGraphChunks := some [connector]
  batchExpiry := some 144
  aggNoncePks := ∅
  ourNonceTrees := some [txidOf root, txidOf child]

/-- The loop when all nodes have been sent. -/
def collected : State BatchLib.forest := { signingState with
  step := .batchStarted
  unsignedCommitmentTx := none
  vtxoGraphChunks := some tree
  vtxoGraph := none
  ourNonceTrees := none }

/-- The turns until all nodes have been sent. -/
def collecting : List (Handling BatchLib.forest) :=
  [⟨.batchStarted "batch" [intentIdHash BatchLib.forest "intent"] 144,
      [.sent (.confirmRegistration "intent"), .answered (.confirmRegistration "intent") (.ok ())]⟩,
    ⟨.treeTx .vtxo root, []⟩, ⟨.treeTx .vtxo child, []⟩, ⟨.treeTx .connector connector, []⟩]

/-- The turn in which the nonces are submitted. -/
def signingStarted : Handling BatchLib.forest :=
  ⟨.treeSigningStarted "batch" [cosignerKp.publicKey] commitmentTx,
    [.sent .random, .answered .random (),
      .sent (.submitTreeNonces "batch" cosignerKp.publicKey [txidOf root, txidOf child]),
      .answered (.submitTreeNonces "batch" cosignerKp.publicKey [txidOf root, txidOf child])
        (.ok ())]⟩

theorem turned_collecting : Turned reference info delegate cosignerKp "intent"
    (.initial BatchLib.forest) collecting collected := by
  have included : [intentIdHash BatchLib.forest "intent"].contains
      (intentIdHash BatchLib.forest "intent") = true := by simp
  let joined : State BatchLib.forest :=
    { collected with vtxoGraphChunks := some [], connectorsGraphChunks := some [] }
  let first : State BatchLib.forest :=
    { collected with vtxoGraphChunks := some [root], connectorsGraphChunks := some [] }
  let second : State BatchLib.forest := { collected with connectorsGraphChunks := some [] }
  have turned : Turned reference info delegate cosignerKp "intent" (.initial BatchLib.forest)
      ([] ++ [collecting[0]] ++ [collecting[1]] ++ [collecting[2]] ++ [collecting[3]]) collected :=
    .turn (.turn (.turn (.turn .nil
      (@returns_onBatchStarted BatchLib.forest "intent" (.initial BatchLib.forest) "batch" _ 144 rfl
        included))
      (@returns_onTreeTx_vtxo BatchLib.forest joined root [] rfl rfl))
      (@returns_onTreeTx_vtxo BatchLib.forest first child [root] rfl rfl))
      (@returns_onTreeTx_connector BatchLib.forest second connector [] (.inl rfl) rfl)
  exact turned

theorem returns_signingStarted :
    Fallible.Returns (onTreeSigningStarted cosignerKp collected "batch" [cosignerKp.publicKey]
      commitmentTx) signingStarted.shown (.next signingState) := by
  have cosigns : [cosignerKp.publicKey].contains cosignerKp.publicKey = true := by simp
  exact @returns_onTreeSigningStarted BatchLib.forest cosignerKp collected "batch"
    [cosignerKp.publicKey] commitmentTx tree tree _ () rfl rfl newTxGraph_tree cosigns rfl

/-- The nonces of a node. -/
def noncesEvent (txid : Txid) : StreamEvent BatchLib.forest :=
  .treeNonces "batch" txid (noncesOf txid)

/-- Nonces without the one of the client. -/
def foreign : StreamEvent BatchLib.forest :=
  .treeNonces "batch" (txidOf root) (∅ : BTreeMap XOnlyPublicKey Nat)

/-- With the root last: the child twice, a heartbeat and nonces of others in between. -/
def rootLast : List (StreamEvent BatchLib.forest) :=
  [noncesEvent (txidOf child), .heartbeat, foreign, noncesEvent (txidOf child)]

/-- The loop when the nonces of the root have arrived. -/
def halfNonced : State BatchLib.forest := { signingState with
  aggNoncePks := (∅ : BTreeMap Txid Nat).insert (txidOf root) (aggregatedNonce (txidOf root)) }

/-- The loop when the tree has been signed. -/
def signedState : State BatchLib.forest := { signingState with
  aggNoncePks := bothNonces
  ourNonceTrees := some [] }

def forfeits : List Psbt := [withConnector (checkpoint 1 ∅) connector]

/-- The turns that follow the start of the signing. -/
def finalizing : List (Handling BatchLib.forest) :=
  [⟨noncesEvent (txidOf root), []⟩,
    ⟨noncesEvent (txidOf child),
      [.sent (.submitTreeSignatures "batch" cosignerKp.publicKey signatures),
        .answered (.submitTreeSignatures "batch" cosignerKp.publicKey signatures) (.ok ())]⟩,
    ⟨.batchFinalization, [.sent (.submitSignedForfeitTxs forfeits none),
      .answered (.submitSignedForfeitTxs forfeits none) (.ok ())]⟩]

theorem size_root : ((∅ : BTreeMap Txid Nat).insert (txidOf root)
    (aggregatedNonce (txidOf root))).size = 1 := by
  simp [Std.ExtTreeMap.size_insert]

theorem size_bothNonces : bothNonces.size = 2 := by
  rw [bothNonces, Std.ExtTreeMap.size_insert, size_root]
  simp [txidOf_ne]

/-- The ceremony up to its `BatchFinalized`. -/
theorem turned_finalized : Turned reference info delegate cosignerKp "intent"
    (.initial BatchLib.forest) (collecting ++ [signingStarted] ++ finalizing)
    { signedState with connectorsGraphChunks := none, step := .finalized } := by
  have started : Turned reference info delegate cosignerKp "intent" (.initial BatchLib.forest)
      (collecting ++ [signingStarted]) signingState := turned_collecting.turn returns_signingStarted
  have half : Fallible.Returns (onEvent reference info delegate cosignerKp "intent" signingState
      (noncesEvent (txidOf root))) [] (.next halfNonced) :=
    @returns_onTreeNonces_early BatchLib.forest cosignerKp signingState _ "batch" (txidOf root)
      (noncesOf (txidOf root)) tree rfl (own_mem_noncesOf _) rfl fun same =>
        absurd (size_root.symm.trans same : 1 = 2) (by decide)
  have signed := @returns_onTreeNonces_last BatchLib.forest cosignerKp halfNonced
    info.forfeitPk.xOnly "batch" (txidOf child) (noncesOf (txidOf child)) tree _ _ commitmentTx 144
    _ rfl (own_mem_noncesOf _) rfl size_bothNonces rfl rfl rfl signNodes_tree
  have finalized := @returns_onBatchFinalization BatchLib.forest delegate signedState [connector]
    [connector] forfeits rfl rfl (List.cons_ne_nil _ _) newTxGraph_connector rfl
  have turned : Turned reference info delegate cosignerKp "intent" (.initial BatchLib.forest)
      (collecting ++ [signingStarted] ++ [finalizing[0]] ++ [finalizing[1]] ++ [finalizing[2]])
      { signedState with connectorsGraphChunks := none, step := .finalized } :=
    .turn (.turn (.turn started half) signed) finalized
  exact turned

/-- The whole stream. -/
def stream : List (StreamItem BatchLib.forest) :=
  (collecting ++ [signingStarted] ++ finalizing).map (fun handling => .ok handling.event) ++
    [.ok (.batchFinalized "batch" ⟨1⟩)]

/-- The ceremony over it. -/
def ceremony (topics : List String) : List (Event (interface BatchLib.forest)) :=
  preamble delegate "intent" topics stream ++ shown (collecting ++ [signingStarted] ++ finalizing)

theorem evolves_ceremony : ∃ topics,
    Evolves (settleDelegate .reference info delegate cosignerKp).run (ceremony topics)
      (.running (.done (.ok ⟨1⟩))) := by
  obtain ⟨topics, opens⟩ := @evolves_settleDelegate BatchLib.forest .reference info delegate
    cosignerKp _ rfl rfl
  exact ⟨topics, (opens "intent" stream).trans (turned_finalized.evolves _)⟩

end Forest
end

end Batch
end ArkadeEscrow
