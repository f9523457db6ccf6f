import ArkadeEscrow.Batch.Signing
import ArkadeEscrow.Interaction.Sequence

/-!
# Ceremonies that complete

A server that wants a batch to succeed still sends a stream of its own making: other batches
start and fail, chunks and nonces arrive in some order, signatures are told as they come in, and
there are heartbeats. A `Course` is such a stream, split at the events that the client answers,
and `Regular` says what has to be between them.

Whatever else is in it, the ceremony ends with the commitment txid, and the client has sent the
requests of the protocol and no others (`settleDelegate_completes`). So none of the checks of
the loop stands in the way of a batch that is all right, and none of the events that it skips is
one that it needed.
-/

set_option autoImplicit false

namespace ArkadeEscrow
namespace Batch

open Interaction Protocol

variable {L : BatchLib} {B : BitcoinLib}
variable {info : Info} {delegate : Delegate L} {cosignerKp : Keypair} {intentId : String}
variable {start s s' : State L} {turns : List (Handling L)}

/-! ## Silent turns -/

/-- The turns over events that nothing is exchanged for. -/
def silent (events : List (StreamEvent L)) : List (Handling L) :=
  events.map fun event => ⟨event, []⟩

/-- **A phase of silent turns**, in which a property of the state and of the events so far is
kept. The induction is on the events that are left. -/
theorem Turned.silently {Allowed : StreamEvent L → Prop} {P : List (StreamEvent L) → State L → Prop}
    (turn : ∀ seen event s, Allowed event → P seen s →
      ∃ s', Fallible.Returns (onEvent B info delegate cosignerKp intentId s event) [] (.next s') ∧
        P (seen ++ [event]) s')
    {events : List (StreamEvent L)} (allowed : ∀ event ∈ events, Allowed event)
    (turned : Turned B info delegate cosignerKp intentId start turns s) (here : P [] s) :
    ∃ s', Turned B info delegate cosignerKp intentId start (turns ++ silent events) s' ∧
      P events s' := by
  suffices all : ∀ seen, P seen s →
      ∃ s', Turned B info delegate cosignerKp intentId start (turns ++ silent events) s' ∧
        P (seen ++ events) s' by
    exact all [] here
  clear here
  induction events generalizing turns s with
  | nil =>
      intro seen here
      rw [silent, List.map_nil, List.append_nil, List.append_nil]
      exact ⟨s, turned, here⟩
  | cons event events ih =>
      intro seen here
      obtain ⟨first, rest⟩ := List.forall_mem_cons.mp allowed
      obtain ⟨s₁, returns, here⟩ := turn seen event s first here
      have turned₁ : Turned B info delegate cosignerKp intentId start (turns ++ [⟨event, []⟩]) s₁ :=
        turned.turn returns
      obtain ⟨s', turned', here⟩ := ih rest turned₁ (seen ++ [event]) here
      rw [List.append_assoc] at turned' here
      exact ⟨s', turned', here⟩

theorem Turned.answers (turned : Turned B info delegate cosignerKp intentId start turns s)
    {event : StreamEvent L} {exchanged : History L}
    (handles : Fallible.Returns (onEvent B info delegate cosignerKp intentId s event) exchanged
      (.next s')) :
    Turned B info delegate cosignerKp intentId start (turns ++ [⟨event, exchanged⟩]) s' :=
  turned.turn handles

/-- The chunks of one of the trees. -/
def chunksOf (kind : BatchTreeEventType) (events : List (StreamEvent L)) : List L.TxGraphChunk :=
  events.filterMap fun
    | .treeTx kind' chunk => if kind' = kind then some chunk else none
    | _ => none

theorem chunksOf_append (kind : BatchTreeEventType) (events events' : List (StreamEvent L)) :
    chunksOf kind (events ++ events') = chunksOf kind events ++ chunksOf kind events' :=
  List.filterMap_append

theorem chunksOf_treeTx {kind kind' : BatchTreeEventType} {chunk : L.TxGraphChunk} :
    chunksOf kind [.treeTx kind' chunk] = if kind' = kind then [chunk] else [] := by
  by_cases same : kind' = kind <;> simp [chunksOf, same]

theorem chunksOf_other {kind : BatchTreeEventType} {event : StreamEvent L}
    (other : ∀ kind' chunk, event ≠ .treeTx kind' chunk) : chunksOf kind [event] = [] := by
  cases event <;> simp_all [chunksOf]

/-! ## What may come in between -/

/-- Before the own batch starts: whatever other batches do. -/
def Elsewhere (L : BatchLib) (intentId : String) : StreamEvent L → Prop
  | .batchStarted _ intentIdHashes _ => intentIdHash L intentId ∉ intentIdHashes
  | _ => True

/-- The own batch does not fail. -/
def Survives (id : String) : StreamEvent L → Prop
  | .batchFailed failed _ => failed ≠ id
  | _ => True

/-- Before the signing starts: chunks of both trees. -/
def Collects (id : String) : StreamEvent L → Prop
  | .treeSigningStarted .. => False
  | event => Survives id event

/-- While the tree is signed: no more nonces for the client, and chunks of the connector tree. -/
def Waits (id : String) (own : XOnlyPublicKey) : StreamEvent L → Prop
  | .treeTx kind _ => kind = .connector
  | .treeNonces _ _ nonces => own ∉ nonces
  | .batchFinalization => False
  | event => Survives id event

/-- Until the last nonces arrive: those of the other nodes. -/
def Gathers (id : String) (own : XOnlyPublicKey) (nodes : List Txid)
    (noncesOf : Txid → BTreeMap XOnlyPublicKey L.PublicNonce) (last : Txid)
    (event : StreamEvent L) : Prop :=
  Waits id own event ∨
    ∃ batchId txid, event = .treeNonces batchId txid (noncesOf txid) ∧ txid ∈ nodes ∧ txid ≠ last

/-- Before the batch is finalized. -/
def Closes (id : String) : StreamEvent L → Prop
  | .batchFinalized _ _ => False
  | event => Survives id event

/-! ## The phases -/

/-- Until the own batch starts, everything is skipped. -/
theorem returns_elsewhere {event : StreamEvent L} (elsewhere : Elsewhere L intentId event) :
    Fallible.Returns (onEvent B info delegate cosignerKp intentId (.initial L) event) []
      (.next (.initial L)) := by
  refine returns_skipped ?_
  cases event <;> simp_all [Skipped, State.initial, Elsewhere]

/-- The loop when it has joined a batch and got these events. -/
def joinedState (id : String) (batchExpiry : UInt32) (events : List (StreamEvent L)) : State L where
  step := .batchStarted
  batchId := some id
  unsignedCommitmentTx := none
  vtxoGraphChunks := some (chunksOf .vtxo events)
  vtxoGraph := none
  connectorsGraphChunks := some (chunksOf .connector events)
  batchExpiry := some batchExpiry
  aggNoncePks := ∅
  ourNonceTrees := none

theorem joinedState_append {id : String} {batchExpiry : UInt32}
    {seen seen' : List (StreamEvent L)} :
    joinedState id batchExpiry (seen ++ seen') =
      { joinedState id batchExpiry seen with
        vtxoGraphChunks := some (chunksOf .vtxo seen ++ chunksOf .vtxo seen')
        connectorsGraphChunks :=
          some (chunksOf .connector seen ++ chunksOf .connector seen') } := by
  rw [joinedState, chunksOf_append, chunksOf_append]
  rfl

/-- The chunks of both trees are collected, and the rest is skipped. -/
theorem returns_collects {id : String} {batchExpiry : UInt32} {seen : List (StreamEvent L)}
    {event : StreamEvent L} (collects : Collects id event) :
    Fallible.Returns (onEvent B info delegate cosignerKp intentId
        (joinedState id batchExpiry seen) event) []
      (.next (joinedState id batchExpiry (seen ++ [event]))) := by
  have step : (joinedState id batchExpiry seen).step = .batchStarted := rfl
  rw [joinedState_append]
  by_cases chunk : ∃ kind chunk, event = .treeTx kind chunk
  · obtain ⟨kind, chunk, rfl⟩ := chunk
    rw [onEvent, chunksOf_treeTx, chunksOf_treeTx]
    cases kind with
    | vtxo =>
        have other : BatchTreeEventType.vtxo ≠ .connector := by decide
        rw [if_pos rfl, if_neg other, List.append_nil]
        exact returns_onTreeTx_vtxo step rfl
    | connector =>
        have other : BatchTreeEventType.connector ≠ .vtxo := by decide
        rw [if_pos rfl, if_neg other, List.append_nil]
        exact returns_onTreeTx_connector (.inl step) rfl
  · have other : ∀ kind' chunk', event ≠ .treeTx kind' chunk' :=
      fun kind' chunk' same => chunk ⟨kind', chunk', same⟩
    rw [chunksOf_other other, chunksOf_other other, List.append_nil, List.append_nil]
    refine returns_skipped ?_
    cases event <;> simp_all [Skipped, Collects, Survives, joinedState]

/-- The loop signs the tree of this batch, and has these chunks of the connector tree. -/
structure Participating (id : String) (chunks : List L.TxGraphChunk) (s : State L) : Prop where
  step : s.step = .batchSigningStarted
  batchId : s.batchId = some id
  connectors : s.connectorsGraphChunks = some chunks

/-- What is signed, and with which nonces, is as it was. -/
def SignsOn (s s' : State L) : Prop :=
  ∀ graph nonceTree commitTx expiry noncesOf seen,
    Accumulating graph nonceTree commitTx expiry noncesOf seen s →
      Accumulating graph nonceTree commitTx expiry noncesOf seen s'

section Signing

variable {id : String} {chunks early : List L.TxGraphChunk} {event : StreamEvent L}
  {graph : L.TxGraph} {nonceTree : L.NonceKps} {commitTx : Psbt} {expiry : UInt32}
  {noncesOf : Txid → BTreeMap XOnlyPublicKey L.PublicNonce} {last : Txid}

/-- Without nonces for the client, chunks of the connector tree are collected, signatures are
recorded and the rest is skipped. -/
theorem returns_waits (laws : TreeLaws L B) (participating : Participating id chunks s)
    (waits : Waits id cosignerKp.publicKey.xOnly event) :
    ∃ s', Fallible.Returns (onEvent B info delegate cosignerKp intentId s event) [] (.next s') ∧
      Participating id (chunks ++ chunksOf .connector [event]) s' ∧ SignsOn s s' := by
  obtain ⟨step, batchId, connectors⟩ := participating
  have skips (skipped : Skipped cosignerKp intentId s event)
      (none : chunksOf .connector [event] = []) :
      ∃ s', Fallible.Returns (onEvent B info delegate cosignerKp intentId s event) [] (.next s') ∧
        Participating id (chunks ++ chunksOf .connector [event]) s' ∧ SignsOn s s' := by
    rw [none, List.append_nil]
    exact ⟨s, returns_skipped skipped, ⟨step, batchId, connectors⟩, fun _ _ _ _ _ _ same => same⟩
  cases event with
  | treeTx kind chunk =>
      obtain rfl : kind = .connector := waits
      rw [chunksOf_treeTx, if_pos rfl]
      refine ⟨_, returns_onTreeTx_connector (.inr step) connectors, ⟨step, batchId, rfl⟩, ?_⟩
      intro _ _ _ _ _ _ accumulating
      exact { accumulating with }
  | treeSignature kind txid signature =>
      cases kind with
      | connector => exact skips (.inr rfl) rfl
      | vtxo =>
          have none : chunksOf .connector [.treeSignature .vtxo txid signature] =
              ([] : List L.TxGraphChunk) := rfl
          rw [none, List.append_nil]
          cases present : s.vtxoGraph with
          | none =>
              refine ⟨s, ?_, ⟨step, batchId, connectors⟩, fun _ _ _ _ _ _ same => same⟩
              rw [onEvent]
              unfold onTreeSignature
              rw [if_neg (not_not.mpr step), present]
              exact returns_next
          | some graph =>
              obtain ⟨graph', recorded, alike⟩ := laws.records graph txid signature
              refine ⟨_, returns_onTreeSignature_vtxo step present recorded,
                ⟨step, batchId, connectors⟩, ?_⟩
              intro _ _ _ _ _ _ accumulating
              obtain ⟨graph₁, present₁, alike₁⟩ := accumulating.graph
              obtain rfl : graph = graph₁ := Option.some.inj (present.symm.trans present₁)
              exact { accumulating with graph := ⟨graph', rfl, alike₁.trans alike⟩ }
  | batchStarted id' intentIdHashes batchExpiry =>
      exact skips (.inl (by simp [step])) rfl
  | treeSigningStarted id' cosignersPubkeys commitTx =>
      have later : s.step ≠ .batchStarted := by simp [step]
      exact skips later rfl
  | treeNonces id' txid nonces => exact skips (.inr waits) rfl
  | batchFinalization => exact waits.elim
  | batchFinalized id' commitmentTxid =>
      have sooner : s.step ≠ .finalized := by simp [step]
      exact skips sooner rfl
  | batchFailed failed reason =>
      have other : some failed ≠ s.batchId := by
        rw [batchId]
        exact fun same => waits (Option.some.inj same)
      exact skips other rfl
  | streamStarted => exact skips trivial rfl
  | treeNoncesAggregated => exact skips trivial rfl
  | heartbeat => exact skips trivial rfl

theorem noncedTxid?_of_waits {own : XOnlyPublicKey} (waits : Waits id own event) :
    noncedTxid? own (.ok event) = none := by
  cases event with
  | treeNonces id' txid nonces => exact noncedTxid?_foreign waits
  | _ => rfl

/-- The loop has the nonces of these nodes, `last` not among them. -/
structure Gathering (id : String) (chunks : List L.TxGraphChunk) (graph : L.TxGraph)
    (nonceTree : L.NonceKps) (commitTx : Psbt) (expiry : UInt32)
    (noncesOf : Txid → BTreeMap XOnlyPublicKey L.PublicNonce) (last : Txid) (seen : List Txid)
    (s : State L) : Prop where
  participating : Participating id chunks s
  accumulating : Accumulating graph nonceTree commitTx expiry noncesOf seen s
  within : ∀ txid ∈ seen, txid ∈ L.nodeTxids graph
  missing : last ∉ seen

/-- **Until the last nonces arrive, the turns are silent.** -/
theorem returns_gathers (laws : TreeLaws L B) (distinct : (L.nodeTxids graph).Nodup)
    (count : L.nbOfNodes graph = (L.nodeTxids graph).length)
    (node : last ∈ L.nodeTxids graph)
    (own : ∀ txid ∈ L.nodeTxids graph, cosignerKp.publicKey.xOnly ∈ noncesOf txid)
    {seen : List Txid}
    (gathering : Gathering id chunks graph nonceTree commitTx expiry noncesOf last seen s)
    (gathers : Gathers id cosignerKp.publicKey.xOnly (L.nodeTxids graph) noncesOf last event) :
    ∃ s', Fallible.Returns (onEvent B info delegate cosignerKp intentId s event) [] (.next s') ∧
      Gathering id (chunks ++ chunksOf .connector [event]) graph nonceTree commitTx expiry noncesOf
        last (seen ++ arrived cosignerKp.publicKey.xOnly [event]) s' := by
  obtain ⟨participating, accumulating, within, missing⟩ := gathering
  rcases gathers with waits | ⟨batchId, txid, rfl, member, other⟩
  · obtain ⟨s', returns, participating', signsOn⟩ := returns_waits laws participating waits
    rw [arrived_cons_of_none (noncedTxid?_of_waits waits), arrived, List.filterMap_nil,
      List.append_nil]
    exact ⟨s', returns, participating', signsOn _ _ _ _ _ _ accumulating, within, missing⟩
  · obtain ⟨graph', present, alike⟩ := accumulating.graph
    have inserted : s.aggNoncePks.insert txid (L.aggregateNonces (noncesOf txid)) =
        aggregated noncesOf (seen ++ [txid]) := by
      rw [accumulating.nonces, aggregated, aggregated, BTreeMap.collect_append_singleton]
    have within' : ∀ txid' ∈ seen ++ [txid], txid' ∈ L.nodeTxids graph := by
      intro txid' member'
      rcases List.mem_append.mp member' with earlier | here
      · exact within txid' earlier
      · rwa [List.mem_singleton.mp here]
    have missing' : last ∉ seen ++ [txid] := by
      simp [missing, Ne.symm other]
    have incomplete : (s.aggNoncePks.insert txid (L.aggregateNonces (noncesOf txid))).size ≠
        L.nbOfNodes graph' := by
      rw [inserted, aggregated, BTreeMap.size_collect, alike.count, count]
      exact card_ne_of_missing within' node missing' distinct
    have none : chunksOf .connector [.treeNonces batchId txid (noncesOf txid)] =
        ([] : List L.TxGraphChunk) := rfl
    rw [none, List.append_nil, arrived_cons_own (own txid member), arrived, List.filterMap_nil]
    exact ⟨_, returns_onTreeNonces_early accumulating.step (own txid member) present incomplete,
      ⟨participating.step, participating.batchId, participating.connectors⟩,
      { accumulating with nonces := inserted }, within', missing'⟩

/-- **With the last nonces the tree is signed.** -/
theorem returns_signs (distinct : (L.nodeTxids graph).Nodup)
    (count : L.nbOfNodes graph = (L.nodeTxids graph).length) {seen : List Txid}
    (gathering : Gathering id chunks graph nonceTree commitTx expiry noncesOf last seen s)
    (node : last ∈ L.nodeTxids graph)
    (others : ∀ txid ∈ L.nodeTxids graph, txid ≠ last → txid ∈ seen)
    (own : cosignerKp.publicKey.xOnly ∈ noncesOf last) {partialSigs : PartialSigTree L}
    {left : L.NonceKps}
    (signable : signNodes info.forfeitPk.xOnly cosignerKp expiry commitTx graph
      (aggregated noncesOf (L.nodeTxids graph)) (L.nodeTxids graph) (∅, nonceTree) =
        .ok (partialSigs, left)) (batchId : String) :
    ∃ s', Fallible.Returns (onEvent B info delegate cosignerKp intentId s
        (.treeNonces batchId last (noncesOf last)))
        [.sent (.submitTreeSignatures batchId cosignerKp.publicKey partialSigs),
          .answered (.submitTreeSignatures batchId cosignerKp.publicKey partialSigs) (.ok ())]
        (.next s') ∧ Participating id chunks s' := by
  obtain ⟨participating, accumulating, within, missing⟩ := gathering
  obtain ⟨graph', present, alike⟩ := accumulating.graph
  have complete : ∀ txid, txid ∈ seen ++ [last] ↔ txid ∈ L.nodeTxids graph := by
    intro txid
    rw [List.mem_append, List.mem_singleton]
    constructor
    · rintro (member | rfl)
      · exact within txid member
      · exact node
    · intro member
      by_cases same : txid = last
      · exact .inr same
      · exact .inl (others txid member same)
  have inserted : s.aggNoncePks.insert last (L.aggregateNonces (noncesOf last)) =
      aggregated noncesOf (L.nodeTxids graph) := by
    rw [accumulating.nonces, ← aggregated_eq_of_same complete, aggregated, aggregated,
      BTreeMap.collect_append_singleton]
  have size : (s.aggNoncePks.insert last (L.aggregateNonces (noncesOf last))).size =
      L.nbOfNodes graph' := by
    rw [inserted, aggregated, BTreeMap.size_collect, alike.count, count,
      List.toFinset_card_of_nodup distinct]
  have signed : signNodes info.forfeitPk.xOnly cosignerKp expiry commitTx graph'
      (s.aggNoncePks.insert last (L.aggregateNonces (noncesOf last))) (L.nodeTxids graph')
      (∅, nonceTree) = .ok (partialSigs, left) := by
    rw [inserted, alike.txids, alike.signNodes]
    exact signable
  exact ⟨_, returns_onTreeNonces_last accumulating.step own present size accumulating.nonceTree
    accumulating.commitTx accumulating.expiry signed, ⟨participating.step, participating.batchId,
    participating.connectors⟩⟩

/-- What the client hands in when the batch is finalized: nothing where there is no connector
tree. -/
inductive HandsIn (delegate : Delegate L) : List L.TxGraphChunk → List Psbt → Prop where
  | nothing : HandsIn delegate [] []
  | forfeits {chunks : List L.TxGraphChunk} {connectors : L.TxGraph} {signedForfeits : List Psbt}
      (some : chunks ≠ []) (built : L.newTxGraph chunks = .ok connectors)
      (completed : L.completeForfeitTxs delegate.forfeitPsbts (L.leaves connectors) =
        .ok signedForfeits) : HandsIn delegate chunks signedForfeits

/-- The exchange in which it is handed in. -/
def handingIn (chunks : List L.TxGraphChunk) (signedForfeits : List Psbt) :
    List (Event (interface L)) :=
  if chunks.isEmpty then []
  else [.sent (.submitSignedForfeitTxs signedForfeits none),
    .answered (.submitSignedForfeitTxs signedForfeits none) (.ok ())]

/-- With the batch finalized, the loop waits for the commitment txid. -/
structure Finalized (id : String) (s : State L) : Prop where
  step : s.step = .finalized
  batchId : s.batchId = some id

theorem returns_finalizes (participating : Participating id chunks s) {signedForfeits : List Psbt}
    (handsIn : HandsIn delegate chunks signedForfeits) :
    ∃ s', Fallible.Returns (onEvent B info delegate cosignerKp intentId s .batchFinalization)
        (handingIn chunks signedForfeits) (.next s') ∧ Finalized id s' := by
  obtain ⟨step, batchId, connectors⟩ := participating
  cases handsIn with
  | nothing =>
      refine ⟨{ s with connectorsGraphChunks := none, step := .finalized }, ?_, rfl, batchId⟩
      rw [onEvent, onBatchFinalization, if_neg (not_not.mpr step)]
      exact returns_check_bind (orError_eq_ok_iff.mpr connectors) returns_next
  | forfeits some built completed =>
      rw [handingIn, if_neg (by simpa using some)]
      exact ⟨_, returns_onBatchFinalization step connectors some built completed, rfl, batchId⟩

theorem returns_closes (finalized : Finalized id s) (closes : Closes id event) :
    Fallible.Returns (onEvent B info delegate cosignerKp intentId s event) [] (.next s) := by
  obtain ⟨step, batchId⟩ := finalized
  refine returns_skipped ?_
  cases event <;> simp_all [Skipped, Closes, Survives]

end Signing

/-! ## The course of a ceremony -/

/-- A stream, split at the events that the client answers. -/
structure Course (L : BatchLib) where
  before : List (StreamEvent L)
  id : String
  intentIdHashes : List String
  batchExpiry : UInt32
  collecting : List (StreamEvent L)
  signingId : String
  cosignersPubkeys : List PublicKey
  commitTx : Psbt
  gathering : List (StreamEvent L)
  noncesId : String
  /-- The node whose nonces arrive last. -/
  last : Txid
  noncesOf : Txid → BTreeMap XOnlyPublicKey L.PublicNonce
  waiting : List (StreamEvent L)
  closing : List (StreamEvent L)
  finalizedId : String
  commitmentTxid : Txid
  rest : List (StreamItem L)

namespace Course

/-- The events up to `BatchFinalized`. -/
def events (c : Course L) : List (StreamEvent L) :=
  c.before ++ [.batchStarted c.id c.intentIdHashes c.batchExpiry] ++ c.collecting ++
    [.treeSigningStarted c.signingId c.cosignersPubkeys c.commitTx] ++ c.gathering ++
    [.treeNonces c.noncesId c.last (c.noncesOf c.last)] ++ c.waiting ++ [.batchFinalization] ++
    c.closing

def stream (c : Course L) : List (StreamItem L) :=
  c.events.map .ok ++ .ok (.batchFinalized c.finalizedId c.commitmentTxid) :: c.rest

/-- The chunks of the connector tree. -/
def connectorChunks (c : Course L) : List L.TxGraphChunk :=
  chunksOf .connector c.collecting ++ chunksOf .connector c.gathering ++
    chunksOf .connector c.waiting

end Course

section Regular

variable (info delegate cosignerKp intentId)

/-- The batch is all right: the tree can be built and signed, the nonces of all nodes arrive,
and the forfeits fit the connectors. -/
structure Regular (c : Course L) (graph : L.TxGraph) (signedForfeits : List Psbt) : Prop where
  elsewhere : ∀ event ∈ c.before, Elsewhere L intentId event
  included : c.intentIdHashes.contains (intentIdHash L intentId) = true
  collects : ∀ event ∈ c.collecting, Collects c.id event
  built : L.newTxGraph (chunksOf .vtxo c.collecting) = .ok graph
  cosigns : c.cosignersPubkeys.contains cosignerKp.publicKey = true
  gathers : ∀ event ∈ c.gathering, Gathers c.id cosignerKp.publicKey.xOnly (L.nodeTxids graph)
    c.noncesOf c.last event
  node : c.last ∈ L.nodeTxids graph
  others : ∀ txid ∈ L.nodeTxids graph, txid ≠ c.last →
    txid ∈ arrived cosignerKp.publicKey.xOnly c.gathering
  own : ∀ txid ∈ L.nodeTxids graph, cosignerKp.publicKey.xOnly ∈ c.noncesOf txid
  signable : ∀ entropy, ∃ nonceTree partialSigs left,
    L.generateNonceTree entropy graph cosignerKp.publicKey c.commitTx = .ok nonceTree ∧
      signNodes info.forfeitPk.xOnly cosignerKp c.batchExpiry c.commitTx graph
        (aggregated c.noncesOf (L.nodeTxids graph)) (L.nodeTxids graph) (∅, nonceTree) =
          .ok (partialSigs, left)
  waits : ∀ event ∈ c.waiting, Waits c.id cosignerKp.publicKey.xOnly event
  handsIn : HandsIn delegate c.connectorChunks signedForfeits
  closes : ∀ event ∈ c.closing, Closes c.id event

end Regular

/-- The exchanges of a ceremony over its stream. -/
def exchanges (cosignerKp : Keypair) (intentId : String) (c : Course L) (entropy : L.Entropy)
    (noncePks : L.NoncePks) (partialSigs : PartialSigTree L) (signedForfeits : List Psbt) :
    List (Event (interface L)) :=
  [.sent (.confirmRegistration intentId), .answered (.confirmRegistration intentId) (.ok ()),
    .sent .random, .answered .random entropy,
    .sent (.submitTreeNonces c.signingId cosignerKp.publicKey noncePks),
    .answered (.submitTreeNonces c.signingId cosignerKp.publicKey noncePks) (.ok ()),
    .sent (.submitTreeSignatures c.noncesId cosignerKp.publicKey partialSigs),
    .answered (.submitTreeSignatures c.noncesId cosignerKp.publicKey partialSigs) (.ok ())] ++
  handingIn c.connectorChunks signedForfeits

theorem shown_silent (events : List (StreamEvent L)) : shown (silent events) = [] := by
  simp [shown, silent]

theorem shown_singleton (handling : Handling L) : shown [handling] = handling.shown :=
  List.flatMap_singleton _ _

theorem shown_append (turns turns' : List (Handling L)) :
    shown (turns ++ turns') = shown turns ++ shown turns' :=
  List.flatMap_append

theorem mem_iff_of_signNodes (laws : TreeLaws L B) {forfeitPk : XOnlyPublicKey} {expiry : UInt32}
    {commitTx : Psbt} {graph : L.TxGraph} {aggNoncePks : BTreeMap Txid L.AggregatedNonce}
    {txids : List Txid} (distinct : txids.Nodup) {nonceTree left : L.NonceKps}
    {partialSigs : PartialSigTree L}
    (signed : signNodes forfeitPk cosignerKp expiry commitTx graph aggNoncePks txids
      (∅, nonceTree) = .ok (partialSigs, left)) (txid : Txid) :
    txid ∈ partialSigs ↔ txid ∈ txids := by
  obtain ⟨others, here⟩ := signature_of_signNodes laws distinct signed txid
  rw [Std.ExtTreeMap.mem_iff_isSome_getElem?]
  constructor
  · intro known
    by_contra absent
    rw [others absent] at known
    simp at known
  · intro member
    obtain ⟨_, _, _, sig, _, _, known⟩ := here member
    rw [known]
    rfl

/-- **The turns of a regular ceremony.** -/
theorem Regular.turned (laws : TreeLaws L B) {c : Course L} {graph : L.TxGraph}
    {signedForfeits : List Psbt}
    (regular : Regular info delegate cosignerKp intentId c graph signedForfeits)
    (entropy : L.Entropy) :
    ∃ nonceTree partialSigs turns s,
      (∀ txid, txid ∈ partialSigs ↔ txid ∈ L.nodeTxids graph) ∧
      Turned B info delegate cosignerKp intentId (.initial L) turns s ∧ s.step = .finalized ∧
      turns.map (·.event) = c.events ∧
      shown turns = exchanges cosignerKp intentId c entropy (L.toNoncePks nonceTree) partialSigs
        signedForfeits := by
  have distinct := laws.distinct _ graph regular.built
  have count := laws.count _ graph regular.built
  obtain ⟨nonceTree, partialSigs, left, generated, signable⟩ := regular.signable entropy
  obtain ⟨_, turned, rfl⟩ := Turned.nil.silently (P := fun _ s => s = .initial L)
    (fun _ event s elsewhere same => ⟨s, same ▸ returns_elsewhere elsewhere, same⟩)
    regular.elsewhere rfl
  -- the own batch, and its trees
  have joins : Fallible.Returns (onEvent B info delegate cosignerKp intentId (.initial L)
      (.batchStarted c.id c.intentIdHashes c.batchExpiry)) _
      (.next (joinedState c.id c.batchExpiry [])) := returns_onBatchStarted rfl regular.included
  obtain ⟨_, turned, rfl⟩ := (turned.answers joins).silently
    (P := fun seen s => s = joinedState c.id c.batchExpiry seen)
    (fun seen event s collects same => ⟨_, same ▸ returns_collects collects, rfl⟩)
    regular.collects rfl
  have starts : Fallible.Returns (onEvent B info delegate cosignerKp intentId
      (joinedState c.id c.batchExpiry c.collecting)
      (.treeSigningStarted c.signingId c.cosignersPubkeys c.commitTx)) _ (.next _) :=
    returns_onTreeSigningStarted entropy rfl rfl regular.built regular.cosigns generated
  -- the nonces, in the order of the server
  obtain ⟨_, turned, gathering⟩ := (turned.answers starts).silently
    (P := fun seen s => Gathering c.id
      (chunksOf .connector c.collecting ++ chunksOf .connector seen) graph nonceTree c.commitTx
      c.batchExpiry c.noncesOf c.last (arrived cosignerKp.publicKey.xOnly seen) s)
    (fun seen event s gathers gathering => by
      rw [chunksOf_append, ← List.append_assoc, arrived, List.filterMap_append]
      exact returns_gathers laws distinct count regular.node regular.own gathering gathers)
    regular.gathers
    ⟨⟨rfl, rfl, by simp [joinedState, chunksOf]⟩,
      ⟨rfl, ⟨graph, rfl, .refl graph⟩, rfl, rfl, rfl, rfl⟩, nofun, nofun⟩
  obtain ⟨_, signs, participating⟩ := returns_signs distinct count gathering regular.node
    regular.others (regular.own _ regular.node) signable c.noncesId
  obtain ⟨_, turned, participating⟩ := (turned.answers signs).silently
    (P := fun seen s => Participating c.id (chunksOf .connector c.collecting ++
      chunksOf .connector c.gathering ++ chunksOf .connector seen) s)
    (fun seen event s waits participating => by
      obtain ⟨s', returns, participating', -⟩ := returns_waits laws participating waits
      rw [chunksOf_append, ← List.append_assoc]
      exact ⟨s', returns, participating'⟩)
    regular.waits (by simpa [chunksOf] using participating)
  -- the forfeits
  obtain ⟨_, finalizes, finalized⟩ := returns_finalizes participating regular.handsIn
  obtain ⟨s, turned, finalized⟩ := (turned.answers finalizes).silently
    (P := fun _ s => Finalized c.id s)
    (fun _ event s closes finalized => ⟨s, returns_closes finalized closes, finalized⟩)
    regular.closes finalized
  refine ⟨nonceTree, partialSigs, _, s, mem_iff_of_signNodes laws distinct signable, turned,
    finalized.step, ?_, ?_⟩
  · simp [silent, Course.events, Function.comp_def]
  · simp only [shown_append, shown_silent, shown_singleton, List.append_nil]
    rfl

/-- The server takes what it is sent, the intent at least in this state, and this is its
stream. -/
structure Accepts {σ : Type} (E : Environment (interface L) σ) (start : σ) (intentId : String)
    (stream : List (StreamItem L)) : Prop where
  registers : ∀ intent, (E.answer start (.registerIntent intent)).1 = .ok intentId
  streams : ∀ s topics, (E.answer s (.getEventStream topics)).1 = .ok stream
  confirms : ∀ s id, (E.answer s (.confirmRegistration id)).1 = .ok ()
  nonces : ∀ s id pk noncePks, (E.answer s (.submitTreeNonces id pk noncePks)).1 = .ok ()
  signatures : ∀ s id pk partialSigs,
    (E.answer s (.submitTreeSignatures id pk partialSigs)).1 = .ok ()
  forfeits : ∀ s signedForfeits commitTx,
    (E.answer s (.submitSignedForfeitTxs signedForfeits commitTx)).1 = .ok ()

/-- Such a server takes part in the exchanges of a ceremony, with some entropy. -/
theorem Accepts.follows {σ : Type} {E : Environment (interface L) σ} {stream : List (StreamItem L)}
    {s : σ} (accepts : Accepts E s intentId stream) (delegate : Delegate L)
    (cosignerKp : Keypair) (c : Course L) (topics : List String) (signedForfeits : List Psbt) :
    ∃ entropy, ∀ noncePks partialSigs, ∃ s',
      Service.Follows E.observer s (preamble delegate intentId topics stream ++
        exchanges cosignerKp intentId c entropy noncePks partialSigs signedForfeits) s' := by
  let s₁ := (E.answer s (.registerIntent delegate.intent)).2
  let s₂ := (E.answer s₁ (.getEventStream topics)).2
  let s₃ := (E.answer s₂ (.confirmRegistration intentId)).2
  refine ⟨(E.answer s₃ .random).1, fun noncePks partialSigs => ?_⟩
  have handsIn (s : σ) : ∃ s',
      Service.Follows E.observer s (handingIn c.connectorChunks signedForfeits) s' := by
    rw [handingIn]
    split
    · exact ⟨s, .nil s⟩
    · exact ⟨_, Environment.follows_exchange (accepts.forfeits ..) (.nil _)⟩
  obtain ⟨s', follows⟩ := handsIn _
  exact ⟨s', Environment.follows_exchange (accepts.registers ..) <|
    Environment.follows_exchange (accepts.streams ..) <|
    Environment.follows_exchange (accepts.confirms ..) <|
    Environment.follows_exchange rfl <|
    Environment.follows_exchange (accepts.nonces ..) <|
    Environment.follows_exchange (accepts.signatures ..) follows⟩

/-- The requests of a ceremony over its stream. -/
def ceremonyRequests (delegate : Delegate L) (cosignerKp : Keypair) (intentId : String)
    (c : Course L) (topics : List String) (noncePks : L.NoncePks) (partialSigs : PartialSigTree L)
    (signedForfeits : List Psbt) : List (Ask L) :=
  [.registerIntent delegate.intent, .getEventStream topics, .confirmRegistration intentId, .random,
    .submitTreeNonces c.signingId cosignerKp.publicKey noncePks,
    .submitTreeSignatures c.noncesId cosignerKp.publicKey partialSigs] ++
  if c.connectorChunks.isEmpty then [] else [.submitSignedForfeitTxs signedForfeits none]

/-- **The run of a regular ceremony.** -/
theorem Regular.returns {σ : Type} (laws : TreeLaws L B)
    (passes : PassesLocalChecks delegate cosignerKp) {c : Course L} {graph : L.TxGraph}
    {signedForfeits : List Psbt}
    (regular : Regular info delegate cosignerKp intentId c graph signedForfeits)
    {E : Environment (interface L) σ} {s : σ} (accepts : Accepts E s intentId c.stream) :
    ∃ topics noncePks partialSigs events s',
      Fallible.Returns (settleDelegate B info delegate cosignerKp) events c.commitmentTxid ∧
      Service.Follows E.observer s events s' ∧
      requests events =
        ceremonyRequests delegate cosignerKp intentId c topics noncePks partialSigs
          signedForfeits ∧
      ∀ txid, txid ∈ partialSigs ↔ txid ∈ L.nodeTxids graph := by
  obtain ⟨outpoints, inputs⟩ := passes.2
  obtain ⟨topics, opens⟩ := evolves_settleDelegate passes.1 inputs
  obtain ⟨entropy, follows⟩ := accepts.follows delegate cosignerKp c topics signedForfeits
  obtain ⟨nonceTree, partialSigs, turns, last, signs, turned, step, events, shows⟩ :=
    regular.turned laws entropy
  obtain ⟨s', follows⟩ := follows (L.toNoncePks nonceTree) partialSigs
  have stream : c.stream = turns.map (fun handling => .ok handling.event) ++
      .ok (.batchFinalized c.finalizedId c.commitmentTxid) :: c.rest := by
    rw [Course.stream, ← events, List.map_map]
    rfl
  have finishes : (eventLoop B info delegate cosignerKp intentId last
      (.ok (.batchFinalized c.finalizedId c.commitmentTxid) :: c.rest)).run =
        .done (.ok c.commitmentTxid) := by
    rw [eventLoop, onEvent, onBatchFinalized, if_neg (not_not.mpr step)]
    rfl
  have loops := turned.evolves (.ok (.batchFinalized c.finalizedId c.commitmentTxid) :: c.rest)
  rw [← stream, shows, finishes] at loops
  refine ⟨topics, L.toNoncePks nonceTree, partialSigs, _, s', (opens intentId c.stream).trans loops,
    follows, ?_, signs⟩
  rw [exchanges, handingIn, ceremonyRequests]
  split <;> rfl

/-- **A batch that is all right is settled.** Whatever other batches do before it, in whatever
order chunks, nonces and signatures come, and whatever the loop skips in between: the ceremony
returns the commitment txid. The client has registered its intent and confirmed it, has
submitted its nonces, one signature for each node of the tree, and its forfeits if there are
connectors, each once and in this order, and it has sent nothing else. -/
theorem settleDelegate_completes {σ : Type} (laws : TreeLaws L B)
    (passes : PassesLocalChecks delegate cosignerKp) {c : Course L} {graph : L.TxGraph}
    {signedForfeits : List Psbt}
    (regular : Regular info delegate cosignerKp intentId c graph signedForfeits)
    {E : Environment (interface L) σ} {s : σ} (accepts : Accepts E s intentId c.stream) :
    ∃ topics noncePks partialSigs events s',
      (settleDelegate B info delegate cosignerKp).run.runIn E s =
        ⟨events, some (.ok c.commitmentTxid), s'⟩ ∧
      requests events =
        ceremonyRequests delegate cosignerKp intentId c topics noncePks partialSigs
          signedForfeits ∧
      ∀ txid, txid ∈ partialSigs ↔ txid ∈ L.nodeTxids graph := by
  obtain ⟨topics, noncePks, partialSigs, events, s', returns, follows, sends, signs⟩ :=
    regular.returns laws passes accepts
  exact ⟨topics, noncePks, partialSigs, events, s', returns.runIn_eq follows, sends, signs⟩

/-! ## A batch of two nodes -/

noncomputable section

/-- A server that takes everything. -/
def willing (intentId : String) (stream : List (StreamItem BatchLib.forest)) :
    Environment (interface BatchLib.forest) Unit where
  answer s
    | .registerIntent _ => (.ok intentId, s)
    | .deleteIntent _ => (.ok (), s)
    | .getEventStream _ => (.ok stream, s)
    | .confirmRegistration _ => (.ok (), s)
    | .random => ((), s)
    | .submitTreeNonces .. => (.ok (), s)
    | .submitTreeSignatures .. => (.ok (), s)
    | .submitSignedForfeitTxs .. => (.ok (), s)

theorem accepts_willing (intentId : String) (stream : List (StreamItem BatchLib.forest)) :
    Accepts (willing intentId stream) () intentId stream where
  registers _ := rfl
  streams _ _ := rfl
  confirms _ _ := rfl
  nonces _ _ _ _ := rfl
  signatures _ _ _ _ := rfl
  forfeits _ _ _ := rfl

/-- Another batch fails before the own one starts, the child sends its nonces twice, and the
connector arrives after the last nonces. -/
def Forest.course : Course BatchLib.forest where
  before := [.streamStarted, .batchStarted "other" [] 7, .batchFailed "other" "no liquidity"]
  id := "batch"
  intentIdHashes := [intentIdHash BatchLib.forest "intent"]
  batchExpiry := 144
  collecting := [.treeTx .vtxo Forest.root, .heartbeat, .treeTx .vtxo Forest.child]
  signingId := "batch"
  cosignersPubkeys := [Forest.cosignerKp.publicKey]
  commitTx := Forest.commitmentTx
  gathering := Forest.rootLast
  noncesId := "batch"
  last := txidOf Forest.root
  noncesOf := Forest.noncesOf
  waiting := [.treeNoncesAggregated, .treeTx .connector Forest.connector]
  closing := [.heartbeat]
  finalizedId := "batch"
  commitmentTxid := ⟨1⟩
  rest := []

theorem gathers_child : Gathers "batch" Forest.cosignerKp.publicKey.xOnly
    (BatchLib.forest.nodeTxids Forest.tree)
    Forest.noncesOf (txidOf Forest.root) (Forest.noncesEvent (txidOf Forest.child)) :=
  .inr ⟨_, _, rfl, .tail _ (.head _), Ne.symm Forest.txidOf_ne⟩

theorem regular_course : Regular Forest.info Forest.delegate Forest.cosignerKp "intent"
    Forest.course Forest.tree Forest.forfeits where
  elsewhere := by simp [Forest.course, Elsewhere]
  included := by simp [Forest.course]
  collects := by simp [Forest.course, Collects, Survives]
  built := Forest.newTxGraph_tree
  cosigns := by simp [Forest.course]
  gathers := by
    refine List.forall_mem_cons.mpr ⟨gathers_child, ?_⟩
    refine List.forall_mem_cons.mpr ⟨.inl trivial, ?_⟩
    refine List.forall_mem_cons.mpr ⟨.inl own_not_mem_empty, ?_⟩
    exact List.forall_mem_singleton.mpr gathers_child
  node := .head _
  others := allBut_root.others
  own txid _ := Forest.own_mem_noncesOf txid
  signable _ := ⟨_, Forest.signatures, [], rfl, Forest.signNodes_tree⟩
  waits := by simp [Forest.course, Waits, Survives]
  handsIn := .forfeits (List.cons_ne_nil _ _) Forest.newTxGraph_connector rfl
  closes := by simp [Forest.course, Closes, Survives]

theorem settleDelegate_completes_sample : ∃ topics noncePks partialSigs events,
    (settleDelegate .reference Forest.info Forest.delegate Forest.cosignerKp).run.runIn
      (willing "intent" Forest.course.stream) () = ⟨events, some (.ok ⟨1⟩), ()⟩ ∧
    requests events =
      [.registerIntent Forest.delegate.intent, .getEventStream topics,
        .confirmRegistration "intent", .random,
        .submitTreeNonces "batch" Forest.cosignerKp.publicKey noncePks,
        .submitTreeSignatures "batch" Forest.cosignerKp.publicKey partialSigs,
        .submitSignedForfeitTxs Forest.forfeits none] := by
  obtain ⟨topics, noncePks, partialSigs, events, s', runs, sends, -⟩ :=
    settleDelegate_completes treeLaws_forest ⟨rfl, _, rfl⟩ regular_course
      (accepts_willing "intent" _)
  exact ⟨topics, noncePks, partialSigs, events, runs, sends⟩

end

end Batch
end ArkadeEscrow
