import ArkadeEscrow.Batch.Protocol

/-!
# Ceremonies that get through

The converse of the rules: what each arm of the loop shows when its checks pass and the
server answers well. `emits_eventLoop_cons` puts the turns of a loop together, and
`emits_settleDelegate` the loop and what comes before it.
-/

set_option autoImplicit false

namespace ArkadeEscrow
namespace Batch

open Interaction Protocol

variable {L : BatchLib} {B : BitcoinLib} {α β : Type}
variable {info : Info} {delegate : Delegate L} {cosignerKp : Keypair} {intentId : String}
variable {s : State L} {events : List (Event (interface L))}

theorem returns_check_bind {r : Except Error α} {a : α} {f : α → Action L β} {b : β}
    (ok : r = .ok a)
    (rest : Fallible.Returns (f a) events b) : Fallible.Returns (check L r >>= f) events b := by
  subst ok
  exact rest

theorem emits_check_bind {r : Except Error α} {a : α} {f : α → Action L β} (ok : r = .ok a)
    (rest : Emits (f a).run events) : Emits (check L r >>= f).run events := by
  subst ok
  exact rest

theorem returns_next : Fallible.Returns (return .next s : Action L (Turn L)) [] (.next s) :=
  .done _

/-! ## The requests -/

theorem returns_registerIntent (intent : Intent L) (intentId : String) :
    Fallible.Returns (registerIntent L intent)
      [.sent (.registerIntent intent), .answered (.registerIntent intent) (.ok intentId)]
      intentId :=
  Returns.map (Returns.request (I := interface L) (.registerIntent intent) (.ok intentId)) _

theorem returns_getEventStream (topics : List String) (stream : List (StreamItem L)) :
    Fallible.Returns (getEventStream L topics)
      [.sent (.getEventStream topics), .answered (.getEventStream topics) (.ok stream)] stream :=
  Returns.map (Returns.request (I := interface L) (.getEventStream topics) (.ok stream)) _

theorem returns_confirmRegistration (intentId : String) :
    Fallible.Returns (confirmRegistration L intentId)
      [.sent (.confirmRegistration intentId),
        .answered (.confirmRegistration intentId) (.ok ())] () :=
  Returns.map (Returns.request (I := interface L) (.confirmRegistration intentId) (.ok ())) _

theorem returns_random (entropy : L.Entropy) :
    Fallible.Returns (random L) [.sent .random, .answered .random entropy] entropy :=
  Returns.map (Returns.request (I := interface L) .random entropy) _

theorem returns_submitTreeNonces (batchId : String) (cosignerPk : PublicKey)
    (noncePks : L.NoncePks) :
    Fallible.Returns (submitTreeNonces L batchId cosignerPk noncePks)
      [.sent (.submitTreeNonces batchId cosignerPk noncePks),
        .answered (.submitTreeNonces batchId cosignerPk noncePks) (.ok ())] () :=
  Returns.map (Returns.request (I := interface L) (.submitTreeNonces batchId cosignerPk noncePks)
    (.ok ())) _

theorem returns_submitTreeSignatures (batchId : String) (cosignerPk : PublicKey)
    (partialSigs : PartialSigTree L) :
    Fallible.Returns (submitTreeSignatures L batchId cosignerPk partialSigs)
      [.sent (.submitTreeSignatures batchId cosignerPk partialSigs),
        .answered (.submitTreeSignatures batchId cosignerPk partialSigs) (.ok ())] () :=
  Returns.map (Returns.request (I := interface L)
    (.submitTreeSignatures batchId cosignerPk partialSigs) (.ok ())) _

theorem returns_submitSignedForfeitTxs (signedForfeits : List Psbt) (commitTx : Option Psbt) :
    Fallible.Returns (submitSignedForfeitTxs L signedForfeits commitTx)
      [.sent (.submitSignedForfeitTxs signedForfeits commitTx),
        .answered (.submitSignedForfeitTxs signedForfeits commitTx) (.ok ())] () :=
  Returns.map (Returns.request (I := interface L)
    (.submitSignedForfeitTxs signedForfeits commitTx) (.ok ())) _

/-! ## The arms of the loop -/

theorem returns_onBatchStarted {id : String} {intentIdHashes : List String}
    {batchExpiry : UInt32} (step : s.step = .start)
    (included : intentIdHashes.contains (intentIdHash L intentId) = true) :
    Fallible.Returns (onBatchStarted intentId s id intentIdHashes batchExpiry)
      [.sent (.confirmRegistration intentId), .answered (.confirmRegistration intentId) (.ok ())]
      (.next { s with
        batchId := some id
        batchExpiry := some batchExpiry
        step := .batchStarted }) := by
  rw [onBatchStarted, if_neg (not_not.mpr step), if_pos included]
  exact (returns_confirmRegistration intentId).bind returns_next

theorem returns_onTreeTx_vtxo {chunk : L.TxGraphChunk} {chunks : List L.TxGraphChunk}
    (step : s.step = .batchStarted) (present : s.vtxoGraphChunks = some chunks) :
    Fallible.Returns (onTreeTx s .vtxo chunk) []
      (.next { s with vtxoGraphChunks := some (chunks ++ [chunk]) }) := by
  unfold onTreeTx
  rw [if_neg (by simp [step])]
  exact returns_check_bind (orError_eq_ok_iff.mpr present) returns_next

theorem returns_onTreeTx_connector {chunk : L.TxGraphChunk} {chunks : List L.TxGraphChunk}
    (step : s.step = .batchStarted ∨ s.step = .batchSigningStarted)
    (present : s.connectorsGraphChunks = some chunks) :
    Fallible.Returns (onTreeTx s .connector chunk) []
      (.next { s with connectorsGraphChunks := some (chunks ++ [chunk]) }) := by
  unfold onTreeTx
  rw [if_neg (by rcases step with step | step <;> simp [step])]
  exact returns_check_bind (orError_eq_ok_iff.mpr present) returns_next

theorem returns_onTreeSignature_vtxo {txid : Txid} {signature : SchnorrSignature}
    {graph graph' : L.TxGraph} (step : s.step = .batchSigningStarted)
    (present : s.vtxoGraph = some graph)
    (recorded : recordSignature B graph txid signature = .ok graph') :
    Fallible.Returns (onTreeSignature B s .vtxo txid signature) []
      (.next { s with vtxoGraph := some graph' }) := by
  unfold onTreeSignature
  rw [if_neg (not_not.mpr step)]
  simp only [present]
  exact returns_check_bind (ofDisplay_eq_ok_iff.mpr recorded) returns_next

theorem returns_onTreeSigningStarted {id : String} {cosignersPubkeys : List PublicKey}
    {unsignedCommitmentTx : Psbt} {chunks : List L.TxGraphChunk} {graph : L.TxGraph}
    {nonceTree : L.NonceKps} (entropy : L.Entropy) (step : s.step = .batchStarted)
    (present : s.vtxoGraphChunks = some chunks) (built : L.newTxGraph chunks = .ok graph)
    (cosigns : cosignersPubkeys.contains cosignerKp.publicKey = true)
    (generated : L.generateNonceTree entropy graph cosignerKp.publicKey unsignedCommitmentTx =
      .ok nonceTree) :
    Fallible.Returns (onTreeSigningStarted cosignerKp s id cosignersPubkeys unsignedCommitmentTx)
      [.sent .random, .answered .random entropy,
        .sent (.submitTreeNonces id cosignerKp.publicKey (L.toNoncePks nonceTree)),
        .answered (.submitTreeNonces id cosignerKp.publicKey (L.toNoncePks nonceTree)) (.ok ())]
      (.next { s with
        vtxoGraphChunks := none
        vtxoGraph := some graph
        unsignedCommitmentTx := some unsignedCommitmentTx
        ourNonceTrees := some nonceTree
        step := .batchSigningStarted }) := by
  rw [onTreeSigningStarted, if_neg (not_not.mpr step)]
  apply returns_check_bind (orError_eq_ok_iff.mpr present)
  apply returns_check_bind (printed_eq_ok_iff.mpr built)
  apply returns_check_bind (ensure_eq_ok_iff.mpr cosigns)
  apply (returns_random entropy).bind
  apply returns_check_bind (printed_eq_ok_iff.mpr generated)
  exact (returns_submitTreeNonces ..).bind returns_next

theorem returns_onTreeNonces_early {forfeitPk : XOnlyPublicKey} {id : String} {txid : Txid}
    {nonces : BTreeMap XOnlyPublicKey L.PublicNonce} {graph : L.TxGraph}
    (step : s.step = .batchSigningStarted) (own : cosignerKp.publicKey.xOnly ∈ nonces)
    (present : s.vtxoGraph = some graph)
    (incomplete : (s.aggNoncePks.insert txid (L.aggregateNonces nonces)).size ≠ L.nbOfNodes graph) :
    Fallible.Returns (onTreeNonces forfeitPk cosignerKp s id txid nonces) []
      (.next { s with aggNoncePks := s.aggNoncePks.insert txid (L.aggregateNonces nonces) }) := by
  rw [onTreeNonces, if_neg (not_not.mpr step), if_pos (Std.ExtTreeMap.contains_iff_mem.mpr own)]
  apply returns_check_bind (orError_eq_ok_iff.mpr present)
  rw [if_neg incomplete]
  exact returns_next

theorem returns_onTreeNonces_foreign {forfeitPk : XOnlyPublicKey} {id : String} {txid : Txid}
    {nonces : BTreeMap XOnlyPublicKey L.PublicNonce} (step : s.step = .batchSigningStarted)
    (foreign : cosignerKp.publicKey.xOnly ∉ nonces) :
    Fallible.Returns (onTreeNonces forfeitPk cosignerKp s id txid nonces) [] (.next s) := by
  rw [onTreeNonces, if_neg (not_not.mpr step),
    if_neg fun own => foreign (Std.ExtTreeMap.contains_iff_mem.mp own)]
  exact returns_next

theorem returns_onTreeNonces_last {forfeitPk : XOnlyPublicKey} {id : String} {txid : Txid}
    {nonces : BTreeMap XOnlyPublicKey L.PublicNonce} {graph : L.TxGraph}
    {nonceTree nonceTree' : L.NonceKps} {commitTx : Psbt} {expiry : UInt32}
    {partialSigs : PartialSigTree L} (step : s.step = .batchSigningStarted)
    (own : cosignerKp.publicKey.xOnly ∈ nonces) (present : s.vtxoGraph = some graph)
    (complete : (s.aggNoncePks.insert txid (L.aggregateNonces nonces)).size = L.nbOfNodes graph)
    (left : s.ourNonceTrees = some nonceTree) (known : s.unsignedCommitmentTx = some commitTx)
    (set : s.batchExpiry = some expiry)
    (signed : signNodes forfeitPk cosignerKp expiry commitTx graph
      (s.aggNoncePks.insert txid (L.aggregateNonces nonces)) (L.nodeTxids graph) (∅, nonceTree) =
        .ok (partialSigs, nonceTree')) :
    Fallible.Returns (onTreeNonces forfeitPk cosignerKp s id txid nonces)
      [.sent (.submitTreeSignatures id cosignerKp.publicKey partialSigs),
        .answered (.submitTreeSignatures id cosignerKp.publicKey partialSigs) (.ok ())]
      (.next { s with
        aggNoncePks := s.aggNoncePks.insert txid (L.aggregateNonces nonces)
        ourNonceTrees := some nonceTree' }) := by
  rw [onTreeNonces, if_neg (not_not.mpr step), if_pos (Std.ExtTreeMap.contains_iff_mem.mpr own)]
  apply returns_check_bind (orError_eq_ok_iff.mpr present)
  rw [if_pos complete]
  apply returns_check_bind (orError_eq_ok_iff.mpr left)
  apply returns_check_bind (orError_eq_ok_iff.mpr known)
  apply returns_check_bind (orError_eq_ok_iff.mpr set)
  apply returns_check_bind signed
  exact (returns_submitTreeSignatures ..).bind returns_next

theorem signNodes_cons {forfeitPk : XOnlyPublicKey} {expiry : UInt32} {commitTx : Psbt}
    {graph : L.TxGraph} {aggNoncePks : BTreeMap Txid L.AggregatedNonce}
    {aggNoncePk : L.AggregatedNonce} {txid : Txid} {txids : List Txid}
    {partialSigs sigs : PartialSigTree L} {nonceTree nonceTree' : L.NonceKps}
    (known : aggNoncePks[txid]? = some aggNoncePk)
    (node : L.signBatchTreeTx txid expiry forfeitPk cosignerKp aggNoncePk graph commitTx nonceTree =
      .ok (sigs, nonceTree')) :
    signNodes forfeitPk cosignerKp expiry commitTx graph aggNoncePks (txid :: txids)
        (partialSigs, nonceTree) =
      signNodes forfeitPk cosignerKp expiry commitTx graph aggNoncePks txids
        (partialSigs ∪ sigs, nonceTree') := by
  rw [signNodes, known]
  show (printed "signing VTXO tree" _).bind _ = _
  rw [node]
  rfl

theorem returns_onBatchFinalization {chunks : List L.TxGraphChunk} {connectors : L.TxGraph}
    {signedForfeits : List Psbt} (step : s.step = .batchSigningStarted)
    (present : s.connectorsGraphChunks = some chunks) (some : chunks ≠ [])
    (built : L.newTxGraph chunks = .ok connectors)
    (completed : L.completeForfeitTxs delegate.forfeitPsbts (L.leaves connectors) =
      .ok signedForfeits) :
    Fallible.Returns (onBatchFinalization delegate s)
      [.sent (.submitSignedForfeitTxs signedForfeits none),
        .answered (.submitSignedForfeitTxs signedForfeits none) (.ok ())]
      (.next { s with connectorsGraphChunks := none, step := .finalized }) := by
  rw [onBatchFinalization, if_neg (not_not.mpr step)]
  apply returns_check_bind (orError_eq_ok_iff.mpr present)
  rw [if_pos (by simpa using some)]
  apply returns_check_bind (printed_eq_ok_iff.mpr built)
  apply returns_check_bind (printed_eq_ok_iff.mpr completed)
  exact (returns_submitSignedForfeitTxs ..).bind returns_next

theorem emits_onBatchFinalization {chunks : List L.TxGraphChunk} {connectors : L.TxGraph}
    {signedForfeits : List Psbt} (step : s.step = .batchSigningStarted)
    (present : s.connectorsGraphChunks = some chunks) (some : chunks ≠ [])
    (built : L.newTxGraph chunks = .ok connectors)
    (completed : L.completeForfeitTxs delegate.forfeitPsbts (L.leaves connectors) =
      .ok signedForfeits) :
    Emits (onBatchFinalization delegate s).run
      [.sent (.submitSignedForfeitTxs signedForfeits none)] := by
  have returns := returns_onBatchFinalization step present some built completed
  exact Emits.of_prefix ⟨_, returns⟩ ⟨_, rfl⟩

/-- The loop does nothing about the event in this state. -/
def Skipped (cosignerKp : Keypair) (intentId : String) (s : State L) : StreamEvent L → Prop
  | .streamStarted | .treeNoncesAggregated | .heartbeat => True
  | .batchStarted _ intentIdHashes _ =>
      s.step ≠ .start ∨ intentIdHash L intentId ∉ intentIdHashes
  | .treeTx _ _ => s.step ≠ .batchStarted ∧ s.step ≠ .batchSigningStarted
  | .treeSignature kind _ _ => s.step ≠ .batchSigningStarted ∨ kind = .connector
  | .treeSigningStarted .. => s.step ≠ .batchStarted
  | .treeNonces _ _ nonces =>
      s.step ≠ .batchSigningStarted ∨ cosignerKp.publicKey.xOnly ∉ nonces
  | .batchFinalization => s.step ≠ .batchSigningStarted
  | .batchFinalized _ _ => s.step ≠ .finalized
  | .batchFailed id _ => some id ≠ s.batchId

theorem returns_skipped {event : StreamEvent L} (skipped : Skipped cosignerKp intentId s event) :
    Fallible.Returns (onEvent B info delegate cosignerKp intentId s event) [] (.next s) := by
  cases event with
  | batchStarted id intentIdHashes batchExpiry =>
      rw [onEvent, onBatchStarted]
      split
      · exact returns_next
      · next step =>
          have other : intentIdHash L intentId ∉ intentIdHashes := skipped.resolve_left step
          rw [if_neg (by simpa using other)]
          exact returns_next
  | treeTx kind chunk =>
      have step : s.step ≠ .batchStarted ∧ s.step ≠ .batchSigningStarted := skipped
      rw [onEvent]
      unfold onTreeTx
      rw [if_pos step]
      exact returns_next
  | treeSignature kind txid signature =>
      rw [onEvent]
      unfold onTreeSignature
      split
      · exact returns_next
      · next step =>
          obtain rfl : kind = .connector := skipped.resolve_left step
          exact returns_next
  | treeSigningStarted id cosignersPubkeys commitTx =>
      have step : s.step ≠ .batchStarted := skipped
      rw [onEvent, onTreeSigningStarted, if_pos step]
      exact returns_next
  | treeNonces id txid nonces =>
      rw [onEvent, onTreeNonces]
      split
      · exact returns_next
      · next step =>
          have foreign : cosignerKp.publicKey.xOnly ∉ nonces := skipped.resolve_left step
          rw [if_neg fun own => foreign (Std.ExtTreeMap.contains_iff_mem.mp own)]
          exact returns_next
  | batchFinalization =>
      have step : s.step ≠ .batchSigningStarted := skipped
      rw [onEvent, onBatchFinalization, if_pos step]
      exact returns_next
  | batchFinalized id commitmentTxid =>
      have step : s.step ≠ .finalized := skipped
      rw [onEvent, onBatchFinalized, if_pos step]
      exact returns_next
  | batchFailed id reason =>
      have other : some id ≠ s.batchId := skipped
      rw [onEvent, onBatchFailed, if_neg other]
      exact returns_next
  | streamStarted => exact returns_next
  | treeNoncesAggregated => exact returns_next
  | heartbeat => exact returns_next

/-! ## The loop -/

theorem emits_eventLoop_cons {event : StreamEvent L} {stream : List (StreamItem L)}
    {events' : List (Event (interface L))} {s' : State L}
    (turn : Fallible.Returns (onEvent B info delegate cosignerKp intentId s event) events
      (.next s'))
    (rest : Emits (eventLoop B info delegate cosignerKp intentId s' stream).run events') :
    Emits (eventLoop B info delegate cosignerKp intentId s (.ok event :: stream)).run
      (events ++ events') := by
  rw [eventLoop]
  exact turn.emits_bind rest

theorem emits_eventLoop_head {event : StreamEvent L} {stream : List (StreamItem L)}
    (turn : Emits (onEvent B info delegate cosignerKp intentId s event).run events) :
    Emits (eventLoop B info delegate cosignerKp intentId s (.ok event :: stream)).run events := by
  rw [eventLoop]
  exact Emits.bind turn _

section Turned

variable (B info delegate cosignerKp intentId)

/-- The loop gets from one state to another in these turns. -/
inductive Turned (start : State L) : List (Handling L) → State L → Prop where
  | nil : Turned start [] start
  | turn {turns : List (Handling L)} {handling : Handling L} {s s' : State L}
      (turned : Turned start turns s)
      (handles : Fallible.Returns (onEvent B info delegate cosignerKp intentId s handling.event)
        handling.shown (.next s')) :
      Turned start (turns ++ [handling]) s'

end Turned

/-- **The loop takes the turns** over a stream that starts with their events. -/
theorem Turned.evolves {start : State L} {turns : List (Handling L)}
    (turned : Turned B info delegate cosignerKp intentId start turns s)
    (stream : List (StreamItem L)) :
    Evolves (eventLoop B info delegate cosignerKp intentId start
        (turns.map (fun handling => .ok handling.event) ++ stream)).run
      (shown turns) (.running (eventLoop B info delegate cosignerKp intentId s stream).run) := by
  induction turned generalizing stream with
  | nil => exact .stop _
  | @turn turns handling s s' turned handles ih =>
      rw [shown_append_singleton, List.map_append, List.append_assoc]
      refine (ih _).trans ?_
      rw [List.map_singleton, List.singleton_append, eventLoop]
      exact handles.evolves_bind

/-- The start of a ceremony up to its stream. -/
theorem evolves_settleDelegate {outpoints : List OutPoint}
    (own : cosignerKp.publicKey = delegate.delegateCosignerPk)
    (inputs : forfeitInputOutpoints delegate.forfeitPsbts = .ok outpoints) :
    ∃ topics, ∀ intentId whole,
      Evolves (settleDelegate B info delegate cosignerKp).run
        (preamble delegate intentId topics whole)
        (.running (eventLoop B info delegate cosignerKp intentId (.initial L) whole).run) := by
  refine ⟨outpoints.map (outPointText B) ++ [cosignerKp.publicKey.text], fun intentId whole => ?_⟩
  have first : ensure (cosignerKp.publicKey == delegate.delegateCosignerPk)
      "cosigner keypair does not match delegate_cosigner_pk" = .ok () :=
    ensure_eq_ok_iff.mpr (by simpa using own)
  rw [settleDelegate, first, inputs]
  refine ((returns_registerIntent delegate.intent intentId).evolves_bind).trans ?_
  exact (returns_getEventStream _ whole).evolves_bind

theorem emits_settleDelegate {outpoints : List OutPoint} (stream : List (StreamItem L))
    (own : cosignerKp.publicKey = delegate.delegateCosignerPk)
    (inputs : forfeitInputOutpoints delegate.forfeitPsbts = .ok outpoints)
    (loop : Emits (eventLoop B info delegate cosignerKp intentId (.initial L) stream).run events) :
    ∃ topics, Emits (settleDelegate B info delegate cosignerKp).run
      ([.sent (.registerIntent delegate.intent),
        .answered (.registerIntent delegate.intent) (.ok intentId),
        .sent (.getEventStream topics), .answered (.getEventStream topics) (.ok stream)] ++
          events) := by
  obtain ⟨topics, opens⟩ := evolves_settleDelegate own inputs
  exact ⟨topics, loop.imp fun _ run => (opens intentId stream).trans run⟩

end Batch
end ArkadeEscrow
