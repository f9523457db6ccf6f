import ArkadeEscrow.Batch.Reference
import ArkadeEscrow.Batch.Rules
import ArkadeEscrow.Data.Results
import Mathlib.Data.Finset.Card

/-!
# Forfeits and the signatures on the tree

The old VTXOs are given up in `onBatchFinalization`, the new tree is signed in
`onTreeNonces`. Both only ask for the step `batchSigningStarted`, and nothing in the state
says whether the tree has been signed. Whether it has when the forfeits are sent depends on
the stream alone: `forfeits_follow_tree_signatures_iff` says that the nonce events before
the first `BatchFinalization` have to be enough for the tree.

`Progress` relates the loop to its stream: how far the ceremony has come, and that what it
has collected and what is left add up to the phases of the whole stream. `Progress.turns` is
the step, one lemma for each phase.
-/

set_option autoImplicit false

namespace ArkadeEscrow
namespace Batch

open Interaction Program

/-! ## The phases of a stream -/

section Phases

variable {α : Type} (p : α → Bool)

/-- The items before the first that satisfies `p`. -/
def upTo (items : List α) : List α := items.takeWhile fun item => !p item

/-- The items after the first that satisfies `p`. -/
def past (items : List α) : List α := (items.dropWhile fun item => !p item).tail

variable {p} {item : α} {items : List α}

theorem upTo_cons_of_hit (hit : p item = true) : upTo p (item :: items) = [] := by
  simp [upTo, hit]

theorem upTo_cons_of_miss (miss : p item = false) :
    upTo p (item :: items) = item :: upTo p items := by
  simp [upTo, miss]

theorem past_cons_of_hit (hit : p item = true) : past p (item :: items) = items := by
  simp [past, hit]

theorem past_cons_of_miss (miss : p item = false) :
    past p (item :: items) = past p items := by
  simp [past, miss]

end Phases

variable {L : BatchLib}

/-- The event starts a batch that includes the intent. -/
def joins (intentId : String) : StreamItem L → Bool
  | .ok (.batchStarted _ intentIdHashes _) => intentIdHashes.contains (intentIdHash L intentId)
  | _ => false

def startsSigning : StreamItem L → Bool
  | .ok (.treeSigningStarted ..) => true
  | _ => false

def finalizes : StreamItem L → Bool
  | .ok .batchFinalization => true
  | _ => false

/-- A node of the VTXO tree. -/
def vtxoChunk? : StreamItem L → Option L.TxGraphChunk
  | .ok (.treeTx .vtxo chunk) => some chunk
  | _ => none

/-- The txid of a node for which the event brings nonces, the own one among them. -/
def noncedTxid? (own : XOnlyPublicKey) : StreamItem L → Option Txid
  | .ok (.treeNonces _ txid nonces) => if own ∈ nonces then some txid else none
  | _ => none

/-- The txids for which there are nonces, the own ones among them. -/
def noncedTxids (own : XOnlyPublicKey) (items : List (StreamItem L)) : Finset Txid :=
  (items.filterMap (noncedTxid? own)).toFinset

/-- From the start of the batch to the start of its signing. -/
def collectingPhase (intentId : String) (stream : List (StreamItem L)) : List (StreamItem L) :=
  upTo startsSigning (past (joins intentId) stream)

/-- From the start of the signing to the first `BatchFinalization`. -/
def signingPhase (intentId : String) (stream : List (StreamItem L)) : List (StreamItem L) :=
  upTo finalizes (past startsSigning (past (joins intentId) stream))

/-- The VTXO tree of the batch. -/
def vtxoTree (intentId : String) (stream : List (StreamItem L)) : Except String L.TxGraph :=
  L.newTxGraph ((collectingPhase intentId stream).filterMap vtxoChunk?)

/-- There are as many txids as the tree has nodes, and the tree has one. -/
def Covers (tree : L.TxGraph) (txids : Finset Txid) : Prop :=
  0 < L.nbOfNodes tree ∧ L.nbOfNodes tree ≤ txids.card

/-! ## The requirement -/

abbrev History (L : BatchLib) := List (Event (interface L))

/-- The client has submitted signatures of its own for every node of the tree. -/
def TreeSigned (cosignerKp : Keypair) (tree : L.TxGraph) (h : History L) : Prop :=
  ∃ batchId partialSigs,
    .sent (.submitTreeSignatures batchId cosignerKp.publicKey partialSigs) ∈ h ∧
    ∀ txid ∈ L.nodeTxids tree, txid ∈ partialSigs

/-- The ceremony has registered its intent under this id and opened this stream. -/
def Opened (delegate : Delegate L) (h : History L) (intentId : String)
    (stream : List (StreamItem L)) : Prop :=
  ∃ topics, [.sent (.registerIntent delegate.intent),
    .answered (.registerIntent delegate.intent) (.ok intentId),
    .sent (.getEventStream topics), .answered (.getEventStream topics) (.ok stream)] <+: h

/-- A successful `sign_batch_tree_tx` signs the node it is asked for. -/
def SignsNode (L : BatchLib) : Prop :=
  ∀ txid expiry forfeitPk cosignerKp aggNoncePk graph commitTx nonceTree partialSigs nonceTree',
    L.signBatchTreeTx txid expiry forfeitPk cosignerKp aggNoncePk graph commitTx nonceTree =
      .ok (partialSigs, nonceTree') → txid ∈ partialSigs

/-- Recording a signature leaves the nodes of a graph as they are. -/
def KeepsNodes (L : BatchLib) (B : BitcoinLib) : Prop :=
  ∀ (graph graph' : L.TxGraph) txid signature,
    recordSignature B graph txid signature = .ok graph' →
      L.nodeTxids graph' = L.nodeTxids graph ∧ L.nbOfNodes graph' = L.nbOfNodes graph

/-- When forfeits are sent, the tree has been signed exactly when the nonces were enough. -/
def ForfeitsAllowed (delegate : Delegate L) (cosignerKp : Keypair) (h : History L) : Ask L → Prop
  | .submitSignedForfeitTxs _ _ => ∃ intentId stream tree,
      Opened delegate h intentId stream ∧ vtxoTree intentId stream = .ok tree ∧
        (TreeSigned cosignerKp tree h ↔
          Covers tree (noncedTxids cosignerKp.publicKey.xOnly (signingPhase intentId stream)))
  | _ => True

variable {B : BitcoinLib} {info : Info} {delegate : Delegate L} {cosignerKp : Keypair}
variable {intentId : String} {tree : L.TxGraph} {own : XOnlyPublicKey}

theorem noncedTxids_cons_of_none {item : StreamItem L} {items : List (StreamItem L)}
    (other : noncedTxid? own item = none) :
    noncedTxids own (item :: items) = noncedTxids own items := by
  simp [noncedTxids, other]

theorem noncedTxids_cons_of_own {id : String} {txid : Txid}
    {nonces : BTreeMap XOnlyPublicKey L.PublicNonce} {items : List (StreamItem L)}
    (member : own ∈ nonces) : noncedTxids own (.ok (.treeNonces id txid nonces) :: items) =
      insert txid (noncedTxids own items) := by
  simp [noncedTxids, noncedTxid?, member]

theorem noncedTxids_cons_of_foreign {id : String} {txid : Txid}
    {nonces : BTreeMap XOnlyPublicKey L.PublicNonce} {items : List (StreamItem L)}
    (absent : own ∉ nonces) : noncedTxids own (.ok (.treeNonces id txid nonces) :: items) =
      noncedTxids own items := by
  simp [noncedTxids, noncedTxid?, absent]

/-- All nodes are signed, if the signing gets to its end. -/
theorem mem_of_signNodes (signs : SignsNode L) {forfeitPk : XOnlyPublicKey} {expiry : UInt32}
    {commitTx : Psbt} {graph : L.TxGraph} {aggNoncePks : BTreeMap Txid L.AggregatedNonce}
    {txids : List Txid} {partialSigs partialSigs' : PartialSigTree L}
    {nonceTree nonceTree' : L.NonceKps}
    (signed : signNodes forfeitPk cosignerKp expiry commitTx graph aggNoncePks txids
      (partialSigs, nonceTree) = .ok (partialSigs', nonceTree')) :
    ∀ txid, txid ∈ txids ∨ txid ∈ partialSigs → txid ∈ partialSigs' := by
  induction txids generalizing partialSigs nonceTree with
  | nil =>
      obtain ⟨rfl, rfl⟩ := Prod.mk.inj (Except.ok.inj signed)
      simp
  | cons first txids ih =>
      obtain ⟨aggNoncePk, _, signed⟩ := Results.bind_eq_ok_iff.mp signed
      obtain ⟨⟨sigs, nonceTree''⟩, node, signed⟩ := Results.bind_eq_ok_iff.mp signed
      have here : first ∈ sigs := signs _ _ _ _ _ _ _ _ _ _ (printed_eq_ok_iff.mp node)
      intro txid member
      apply ih signed txid
      rcases member with member | member
      · rcases List.mem_cons.mp member with rfl | member
        · exact .inr (Std.ExtTreeMap.mem_union_of_right here)
        · exact .inl member
      · exact .inr (Std.ExtTreeMap.mem_union_of_left member)

/-! ## The signing phase -/

/-- The loop is signing this tree and has seen nonces for these txids. -/
structure Signing (tree : L.TxGraph) (seen : Finset Txid) (s : State L) : Prop where
  step : s.step = .batchSigningStarted
  graph : ∃ graph, s.vtxoGraph = some graph ∧ L.nodeTxids graph = L.nodeTxids tree ∧
    L.nbOfNodes graph = L.nbOfNodes tree
  keys : ∀ txid, txid ∈ s.aggNoncePks ↔ txid ∈ seen
  size : s.aggNoncePks.size = seen.card

namespace Signing

variable {seen : Finset Txid} {s : State L}

/-- The aggregated nonce of one more event. -/
theorem insert (signing : Signing tree seen s) {txid : Txid} {aggNoncePk : L.AggregatedNonce}
    {aggNoncePks : BTreeMap Txid L.AggregatedNonce}
    (inserted : s.aggNoncePks.insert txid aggNoncePk = aggNoncePks)
    (ourNonceTrees : Option L.NonceKps) :
    Signing tree (Insert.insert txid seen)
      { s with aggNoncePks := aggNoncePks, ourNonceTrees := ourNonceTrees } where
  step := signing.step
  graph := signing.graph
  keys txid' := by
    rw [← inserted, Std.ExtTreeMap.mem_insert, Finset.mem_insert, signing.keys txid',
      Std.LawfulEqCmp.compare_eq_iff_eq, eq_comm]
  size := by
    rw [← inserted, Std.ExtTreeMap.size_insert, signing.size, Finset.card_insert_eq_ite]
    by_cases member : txid ∈ seen
    · have present : s.aggNoncePks.contains txid = true :=
        Std.ExtTreeMap.contains_iff_mem.mpr ((signing.keys txid).mpr member)
      rw [if_pos member, if_pos present]
    · have absent : ¬s.aggNoncePks.contains txid = true := fun here =>
        member ((signing.keys txid).mp (Std.ExtTreeMap.contains_iff_mem.mp here))
      rw [if_neg member, if_neg absent]

theorem record (signing : Signing tree seen s) (keeps : KeepsNodes L B)
    {graph graph' : L.TxGraph} {txid : Txid} {signature : SchnorrSignature}
    (present : s.vtxoGraph = some graph)
    (recorded : recordSignature B graph txid signature = .ok graph') :
    Signing tree seen { s with vtxoGraph := some graph' } where
  step := signing.step
  graph := by
    obtain ⟨graph₀, present₀, txids, count⟩ := signing.graph
    obtain rfl : graph = graph₀ := Option.some.inj (present.symm.trans present₀)
    obtain ⟨txids', count'⟩ := keeps graph graph' txid signature recorded
    exact ⟨graph', rfl, txids'.trans txids, count'.trans count⟩
  keys := signing.keys
  size := signing.size

end Signing

theorem treeSigned_append_iff {h more : History L} :
    TreeSigned cosignerKp tree (h ++ more) ↔
      TreeSigned cosignerKp tree h ∨ TreeSigned cosignerKp tree more := by
  simp only [TreeSigned, List.mem_append]
  constructor
  · intro parts
    rcases parts with ⟨batchId, partialSigs, sent | sent, all⟩
    · exact .inl ⟨batchId, partialSigs, sent, all⟩
    · exact .inr ⟨batchId, partialSigs, sent, all⟩
  · intro either
    rcases either with ⟨batchId, partialSigs, sent, all⟩ | ⟨batchId, partialSigs, sent, all⟩
    · exact ⟨batchId, partialSigs, .inl sent, all⟩
    · exact ⟨batchId, partialSigs, .inr sent, all⟩

/-- Unless the last missing nonce has come, one more changes nothing. -/
theorem covers_insert_iff {seen : Finset Txid} {txid : Txid}
    (other : (insert txid seen).card ≠ L.nbOfNodes tree) :
    Covers tree (insert txid seen) ↔ Covers tree seen := by
  have atMost := Finset.card_insert_le txid seen
  have atLeast := Finset.card_le_card (Finset.subset_insert txid seen)
  unfold Covers
  omega

theorem covers_of_card_eq {seen : Finset Txid} {txid : Txid}
    (same : (insert txid seen).card = L.nbOfNodes tree) : Covers tree (insert txid seen) := by
  have nonempty := Finset.card_pos.mpr (Finset.insert_nonempty txid seen)
  exact ⟨by omega, by omega⟩

theorem Opened.mono {h more : History L} {stream : List (StreamItem L)}
    (opened : Opened delegate h intentId stream) : Opened delegate (h ++ more) intentId stream :=
  opened.imp fun _ before => before.trans (List.prefix_append _ _)

/-! ## The phases of a ceremony -/

/-- No signatures have been submitted. -/
def Unsigned (cosignerKp : Keypair) (h : History L) : Prop := ∀ tree, ¬TreeSigned cosignerKp tree h

theorem Unsigned.append {h more : History L} (unsigned : Unsigned cosignerKp h)
    (others : Unsigned cosignerKp more) : Unsigned cosignerKp (h ++ more) :=
  fun tree signed => (treeSigned_append_iff.mp signed).elim (unsigned tree) (others tree)

theorem unsigned_of_no_signatures {h : History L}
    (others : ∀ batchId partialSigs,
      .sent (.submitTreeSignatures batchId cosignerKp.publicKey partialSigs) ∉ h) :
    Unsigned cosignerKp h := by
  rintro tree ⟨batchId, partialSigs, sent, _⟩
  exact others batchId partialSigs sent

/-- The loop has not joined a batch yet. -/
structure Waiting (s : State L) : Prop where
  step : s.step = .start
  chunks : s.vtxoGraphChunks = some []
  nonces : s.aggNoncePks = ∅

/-- The loop has joined a batch and collects the nodes of its tree. -/
structure Collecting (chunks : List L.TxGraphChunk) (s : State L) : Prop where
  step : s.step = .batchStarted
  chunks : s.vtxoGraphChunks = some chunks
  nonces : s.aggNoncePks = ∅

/-- How far a ceremony over the stream `whole` has come, when this much of it is left: what
it has collected and what is left add up to the phases of `whole`. -/
inductive Phase (cosignerKp : Keypair) (intentId : String) (whole stream : List (StreamItem L))
    (s : State L) (h : History L) : Prop where
  | waiting (waiting : Waiting s) (unsigned : Unsigned cosignerKp h)
      (rest : past (joins intentId) stream = past (joins intentId) whole)
  | collecting {chunks : List L.TxGraphChunk} (collecting : Collecting chunks s)
      (unsigned : Unsigned cosignerKp h)
      (total : chunks ++ (upTo startsSigning stream).filterMap vtxoChunk? =
        (collectingPhase intentId whole).filterMap vtxoChunk?)
      (rest : upTo finalizes (past startsSigning stream) = signingPhase intentId whole)
  | signing {tree : L.TxGraph} {seen : Finset Txid} (built : vtxoTree intentId whole = .ok tree)
      (signing : Signing tree seen s) (signed : TreeSigned cosignerKp tree h ↔ Covers tree seen)
      (total : seen ∪ noncedTxids cosignerKp.publicKey.xOnly (upTo finalizes stream) =
        noncedTxids cosignerKp.publicKey.xOnly (signingPhase intentId whole))
  | finalized (step : s.step = .finalized)

/-- **The invariant of the loop.** -/
structure Progress (delegate : Delegate L) (cosignerKp : Keypair) (intentId : String)
    (whole stream : List (StreamItem L)) (s : State L) (h : History L) : Prop where
  opened : Opened delegate h intentId whole
  phase : Phase cosignerKp intentId whole stream s h

section Turn

variable {whole stream : List (StreamItem L)} {event : StreamEvent L} {s : State L}
  {h : History L} (opened : Opened delegate h intentId whole)
include opened

/-- Once the batch is finalized, nothing more is sent. -/
theorem turns_finalized (step : s.step = .finalized) :
    Turns (historian (interface L)) (.guard (ForfeitsAllowed delegate cosignerKp))
      (Progress delegate cosignerKp intentId whole stream)
      (onEvent B info delegate cosignerKp intentId s event) h := by
  by_cases awaited : awaits s.step event = true
  · rw [step] at awaited
    cases event with
    | batchFinalized id commitmentTxid =>
        intro s' same
        simp [onBatchFinalized, step] at same
    | batchFailed id reason => exact turns_onBatchFailed fun _ => ⟨opened, .finalized step⟩
    | _ => cases awaited
  · exact turns_of_not_awaits (eq_false_of_ne_true awaited) ⟨opened, .finalized step⟩

section Signing

variable {seen : Finset Txid} (built : vtxoTree intentId whole = .ok tree)
  (signing : Signing tree seen s) (signed : TreeSigned cosignerKp tree h ↔ Covers tree seen)
include built signing signed

/-- The nonces of a node. The tree is signed when they make the nonces cover it. -/
theorem turns_nonces (signs : SignsNode L) {id : String} {txid : Txid}
    {nonces : BTreeMap XOnlyPublicKey L.PublicNonce}
    (total : seen ∪ noncedTxids cosignerKp.publicKey.xOnly
        (.ok (.treeNonces id txid nonces) :: upTo finalizes stream) =
      noncedTxids cosignerKp.publicKey.xOnly (signingPhase intentId whole)) :
    Turns (historian (interface L)) (.guard (ForfeitsAllowed delegate cosignerKp))
      (Progress delegate cosignerKp intentId whole stream)
      (onTreeNonces info.forfeitPk.xOnly cosignerKp s id txid nonces) h := by
  obtain ⟨tree', present', txids, count⟩ := signing.graph
  refine turns_onTreeNonces ?_ ?_ ?_
  · intro either
    rcases either with other | other
    · exact absurd signing.step other
    · rw [noncedTxids_cons_of_foreign other] at total
      exact ⟨opened, .signing built signing signed total⟩
  · intro _ own graph aggNoncePks present inserted incomplete
    rw [noncedTxids_cons_of_own own, Finset.union_insert, ← Finset.insert_union] at total
    have signing' := signing.insert inserted s.ourNonceTrees
    obtain rfl : graph = tree' := Option.some.inj (present.symm.trans present')
    have other : (insert txid seen).card ≠ L.nbOfNodes tree := by
      rw [← signing'.size, ← count]
      exact incomplete
    have signed' := signed.trans (covers_insert_iff other).symm
    exact ⟨opened, .signing built signing' signed' total⟩
  · intro _ own graph aggNoncePks nonceTree commitTx expiry partialSigs nonceTree' present
      inserted complete _ _ _ nodes
    rw [noncedTxids_cons_of_own own, Finset.union_insert, ← Finset.insert_union] at total
    have signing' := signing.insert inserted (some nonceTree')
    obtain rfl : graph = tree' := Option.some.inj (present.symm.trans present')
    have covers : Covers tree (insert txid seen) := by
      apply covers_of_card_eq
      rw [← signing'.size, ← count]
      exact complete
    refine permits_historian trivial fun answer _ => ⟨opened.mono, ?_⟩
    refine .signing built signing' ⟨fun _ => covers, fun _ => ?_⟩ total
    refine treeSigned_append_iff.mpr (.inr ⟨id, partialSigs, by simp, ?_⟩)
    intro node member
    rw [← txids] at member
    exact mem_of_signNodes signs nodes node (.inl member)

/-- A turn of the signing phase. -/
theorem turns_signing (signs : SignsNode L) (keeps : KeepsNodes L B)
    (total : seen ∪ noncedTxids cosignerKp.publicKey.xOnly
        (upTo finalizes (.ok event :: stream)) =
      noncedTxids cosignerKp.publicKey.xOnly (signingPhase intentId whole)) :
    Turns (historian (interface L)) (.guard (ForfeitsAllowed delegate cosignerKp))
      (Progress delegate cosignerKp intentId whole stream)
      (onEvent B info delegate cosignerKp intentId s event) h := by
  by_cases awaited : awaits s.step event = true
  · rw [signing.step] at awaited
    cases event with
    | treeTx kind chunk =>
        rw [upTo_cons_of_miss rfl, noncedTxids_cons_of_none rfl] at total
        refine turns_onTreeTx (fun other => absurd signing.step other.2) ?_ ?_
        · intro _ _ chunks _
          exact ⟨opened, .signing built
            ⟨signing.step, signing.graph, signing.keys, signing.size⟩ signed total⟩
        · intro _ _ chunks _
          exact ⟨opened, .signing built
            ⟨signing.step, signing.graph, signing.keys, signing.size⟩ signed total⟩
    | treeSignature kind txid signature =>
        rw [upTo_cons_of_miss rfl, noncedTxids_cons_of_none rfl] at total
        apply turns_onTreeSignature ⟨opened, .signing built signing signed total⟩
        intro _ graph graph' present recorded
        exact ⟨opened, .signing built (signing.record keeps present recorded) signed total⟩
    | treeNonces id txid nonces =>
        rw [upTo_cons_of_miss rfl] at total
        exact turns_nonces opened built signing signed signs total
    | batchFinalization =>
        rw [upTo_cons_of_hit rfl] at total
        replace total : seen = noncedTxids cosignerKp.publicKey.xOnly
          (signingPhase intentId whole) := by simpa [noncedTxids] using total
        refine turns_onBatchFinalization ?_ ?_ ?_
        · exact fun other => absurd signing.step other
        · intro _ _
          exact ⟨opened, .finalized rfl⟩
        · intro _ chunks connectors signedForfeits _ _ _ _
          refine permits_historian ⟨intentId, whole, tree, opened, built, ?_⟩ ?_
          · rw [← total]
            exact signed
          · exact fun answer _ => ⟨opened.mono, .finalized rfl⟩
    | batchFailed id reason =>
        rw [upTo_cons_of_miss rfl, noncedTxids_cons_of_none rfl] at total
        exact turns_onBatchFailed fun _ => ⟨opened, .signing built signing signed total⟩
    | _ => cases awaited
  · refine turns_of_not_awaits (eq_false_of_ne_true awaited)
      ⟨opened, .signing built signing signed ?_⟩
    rw [← total]
    rw [signing.step] at awaited
    cases event with
    | batchFinalization => exact absurd rfl awaited
    | treeNonces id txid nonces => exact absurd rfl awaited
    | _ => rw [upTo_cons_of_miss rfl, noncedTxids_cons_of_none rfl]

end Signing

/-- The signing starts, with the tree that has been collected and no nonces seen yet. -/
theorem turns_start {chunks : List L.TxGraphChunk} (collecting : Collecting chunks s)
    (unsigned : Unsigned cosignerKp h)
    (total : chunks = (collectingPhase intentId whole).filterMap vtxoChunk?)
    (rest : upTo finalizes stream = signingPhase intentId whole) {id : String}
    {cosigners : List PublicKey} {commitTx : Psbt} :
    Turns (historian (interface L)) (.guard (ForfeitsAllowed delegate cosignerKp))
      (Progress delegate cosignerKp intentId whole stream)
      (onTreeSigningStarted cosignerKp s id cosigners commitTx) h := by
  refine turns_onTreeSigningStarted (fun other => absurd collecting.step other) ?_
  intro _ chunks' tree present built _
  obtain rfl : chunks = chunks' := Option.some.inj (collecting.chunks.symm.trans present)
  rw [total] at built
  refine permits_historian trivial fun entropy nonceTree _ => ?_
  refine permits_historian trivial fun answer _ => ⟨opened.mono.mono, ?_⟩
  have signing : Signing tree ∅
      { s with
        vtxoGraphChunks := none
        vtxoGraph := some tree
        unsignedCommitmentTx := some commitTx
        ourNonceTrees := some nonceTree
        step := .batchSigningStarted } :=
    { step := rfl
      graph := ⟨tree, rfl, rfl, rfl⟩
      keys := by simp [collecting.nonces]
      size := by simp [collecting.nonces] }
  refine .signing built signing ⟨fun signed => absurd signed ?_, fun covers => ?_⟩ ?_
  · exact (unsigned.append (unsigned_of_no_signatures (by simp))).append
      (unsigned_of_no_signatures (by simp)) tree
  · obtain ⟨some, none⟩ := covers
    rw [Finset.card_empty] at none
    omega
  · rw [Finset.empty_union, rest]

/-- A turn while the nodes of the tree are collected. -/
theorem turns_collecting {chunks : List L.TxGraphChunk} (collecting : Collecting chunks s)
    (unsigned : Unsigned cosignerKp h)
    (total : chunks ++ (upTo startsSigning (.ok event :: stream)).filterMap vtxoChunk? =
      (collectingPhase intentId whole).filterMap vtxoChunk?)
    (rest : upTo finalizes (past startsSigning (.ok event :: stream)) =
      signingPhase intentId whole) :
    Turns (historian (interface L)) (.guard (ForfeitsAllowed delegate cosignerKp))
      (Progress delegate cosignerKp intentId whole stream)
      (onEvent B info delegate cosignerKp intentId s event) h := by
  by_cases awaited : awaits s.step event = true
  · rw [collecting.step] at awaited
    cases event with
    | treeTx kind chunk =>
        rw [upTo_cons_of_miss rfl] at total
        rw [past_cons_of_miss rfl] at rest
        refine turns_onTreeTx ?_ ?_ ?_
        · exact fun other => absurd collecting.step other.1
        · rintro _ rfl chunks' present
          obtain rfl : chunks = chunks' := Option.some.inj (collecting.chunks.symm.trans present)
          refine ⟨opened, .collecting ⟨collecting.step, rfl, collecting.nonces⟩ unsigned ?_ rest⟩
          rw [← total, List.append_assoc]
          rfl
        · rintro _ rfl chunks' _
          exact ⟨opened, .collecting ⟨collecting.step, collecting.chunks, collecting.nonces⟩
            unsigned total rest⟩
    | treeSigningStarted id cosigners commitTx =>
        rw [upTo_cons_of_hit rfl, List.filterMap_nil, List.append_nil] at total
        rw [past_cons_of_hit rfl] at rest
        exact turns_start opened collecting unsigned total rest
    | batchFailed id reason =>
        rw [upTo_cons_of_miss rfl] at total
        rw [past_cons_of_miss rfl] at rest
        exact turns_onBatchFailed fun _ => ⟨opened, .collecting collecting unsigned total rest⟩
    | _ => cases awaited
  · have idle := eq_false_of_ne_true awaited
    rw [collecting.step] at idle
    have other : startsSigning (.ok event : StreamItem L) = false ∧
        vtxoChunk? (.ok event : StreamItem L) = none := by
      cases event with
      | treeTx kind chunk => cases idle
      | treeSigningStarted id cosigners commitTx => cases idle
      | _ => exact ⟨rfl, rfl⟩
    rw [upTo_cons_of_miss other.1, List.filterMap_cons_none other.2] at total
    rw [past_cons_of_miss other.1] at rest
    exact turns_of_not_awaits (eq_false_of_ne_true awaited)
      ⟨opened, .collecting collecting unsigned total rest⟩

/-- A turn before a batch has been joined. -/
theorem turns_waiting (waiting : Waiting s) (unsigned : Unsigned cosignerKp h)
    (rest : past (joins intentId) (.ok event :: stream) = past (joins intentId) whole) :
    Turns (historian (interface L)) (.guard (ForfeitsAllowed delegate cosignerKp))
      (Progress delegate cosignerKp intentId whole stream)
      (onEvent B info delegate cosignerKp intentId s event) h := by
  by_cases awaited : awaits s.step event = true
  · rw [waiting.step] at awaited
    cases event with
    | batchStarted id intentIdHashes batchExpiry =>
        have verdict : joins intentId
            (.ok (.batchStarted id intentIdHashes batchExpiry) : StreamItem L) =
              intentIdHashes.contains (intentIdHash L intentId) := rfl
        refine turns_onBatchStarted ?_ fun _ included => ?_
        · intro either
          rcases either with other | excluded
          · exact absurd waiting.step other
          · rw [past_cons_of_miss (verdict.trans excluded)] at rest
            exact ⟨opened, .waiting waiting unsigned rest⟩
        · rw [past_cons_of_hit (verdict.trans included)] at rest
          refine permits_historian trivial fun answer _ => ⟨opened.mono, ?_⟩
          have collecting : Collecting []
              { s with
                batchId := some id
                batchExpiry := some batchExpiry
                step := .batchStarted } := ⟨rfl, waiting.chunks, waiting.nonces⟩
          refine .collecting collecting ?_ ?_ ?_
          · exact unsigned.append (unsigned_of_no_signatures (by simp))
          · rw [List.nil_append, collectingPhase, rest]
          · rw [signingPhase, rest]
    | batchFailed id reason =>
        rw [past_cons_of_miss rfl] at rest
        exact turns_onBatchFailed fun _ => ⟨opened, .waiting waiting unsigned rest⟩
    | _ => cases awaited
  · have idle := eq_false_of_ne_true awaited
    rw [waiting.step] at idle
    have other : joins intentId (.ok event : StreamItem L) = false := by
      cases event with
      | batchStarted id intentIdHashes batchExpiry => cases idle
      | _ => rfl
    rw [past_cons_of_miss other] at rest
    exact turns_of_not_awaits (eq_false_of_ne_true awaited)
      ⟨opened, .waiting waiting unsigned rest⟩

end Turn

/-! ## The whole ceremony -/

/-- **Every turn preserves the invariant**, and sends forfeits only when they are allowed. -/
theorem Progress.turns (signs : SignsNode L) (keeps : KeepsNodes L B)
    {whole stream : List (StreamItem L)} {event : StreamEvent L} {s : State L} {h : History L}
    (progress : Progress delegate cosignerKp intentId whole (.ok event :: stream) s h) :
    Turns (historian (interface L)) (.guard (ForfeitsAllowed delegate cosignerKp))
      (Progress delegate cosignerKp intentId whole stream)
      (onEvent B info delegate cosignerKp intentId s event) h := by
  obtain ⟨opened, phase⟩ := progress
  cases phase with
  | waiting waiting unsigned rest => exact turns_waiting opened waiting unsigned rest
  | collecting collecting unsigned total rest =>
      exact turns_collecting opened collecting unsigned total rest
  | signing built signing signed total =>
      exact turns_signing opened built signing signed signs keeps total
  | finalized step => exact turns_finalized opened step

theorem safe_settleDelegate (signs : SignsNode L) (keeps : KeepsNodes L B) :
    Safe (historian (interface L)) (.guard (ForfeitsAllowed delegate cosignerKp))
      (settleDelegate B info delegate cosignerKp).run [] := by
  refine Fallible.safe_bind.mpr fun _ _ => ?_
  refine Fallible.safe_bind.mpr fun outpoints _ => ?_
  refine Fallible.safe_bind.mpr (permits_historian trivial fun registered => ?_)
  intro intentId known
  obtain rfl : registered = .ok intentId := printed_eq_ok_iff.mp known
  refine Fallible.safe_bind.mpr (permits_historian trivial fun opened => ?_)
  intro stream received
  obtain rfl : opened = .ok stream := printed_eq_ok_iff.mp received
  refine safe_eventLoop (Progress delegate cosignerKp intentId stream)
    (fun _ _ _ _ => Progress.turns signs keeps) ⟨⟨_, List.prefix_rfl⟩, ?_⟩
  exact .waiting ⟨rfl, rfl, rfl⟩ (unsigned_of_no_signatures (by simp)) rfl

/-- **Forfeits follow the tree signatures exactly when the nonces cover the tree.** Whenever
a ceremony sends its forfeits, it has submitted its signatures for every node of the VTXO
tree before, if and only if the events between the start of the signing and the first
`BatchFinalization` have brought nonces, the own ones among them, for as many txids as the
tree has nodes. -/
theorem forfeits_follow_tree_signatures_iff (signs : SignsNode L) (keeps : KeepsNodes L B)
    {before after : History L} {signedForfeits : List Psbt} {commitmentTx : Option Psbt}
    (run : Emits (settleDelegate B info delegate cosignerKp).run
      (before ++ .sent (.submitSignedForfeitTxs signedForfeits commitmentTx) :: after)) :
    ∃ intentId stream tree, Opened delegate before intentId stream ∧
      vtxoTree intentId stream = .ok tree ∧
      (TreeSigned cosignerKp tree before ↔
        Covers tree (noncedTxids cosignerKp.publicKey.xOnly (signingPhase intentId stream))) :=
  run.guarded (D := .guard (ForfeitsAllowed delegate cosignerKp)) trivial
    (safe_settleDelegate signs keeps) before _ after rfl

/-! ## A ceremony with the nonces of the tree, and one without -/

theorem signsNode_reference : SignsNode BatchLib.reference := by
  intro txid _ _ _ _ _ _ nonces sigs nonces' signed
  exact @mem_of_useNonce txid nonces nonces' sigs signed

theorem keepsNodes_reference : KeepsNodes BatchLib.reference .reference := by
  intro graph graph' txid signature recorded
  have same : graph' = graph := by
    have applied : ((if BitcoinLib.reference.computeTxid graph.unsignedTx ≠ txid then
        .ok (graph, true) else .ok (graph, false) : Except String (Psbt × Bool))).map Prod.fst =
          .ok graph' := recorded
    split at applied
    · exact (Except.ok.inj applied).symm
    · exact (Except.ok.inj applied).symm
  rw [same]
  exact ⟨rfl, rfl⟩

namespace Sample

theorem joins_batch : joins "intent" (.ok (.batchStarted "batch"
    [intentIdHash BatchLib.reference "intent"] 144) : StreamItem BatchLib.reference) = true := by
  simp [joins]

theorem vtxoTree_batch (signing : List (StreamItem BatchLib.reference)) :
    vtxoTree "intent" (batch signing) = .ok node := by
  rw [vtxoTree, collectingPhase, batch, past_cons_of_hit joins_batch, upTo_cons_of_miss rfl,
    upTo_cons_of_miss rfl, upTo_cons_of_hit rfl]
  rfl

theorem signingPhase_batch (signing : List (StreamItem BatchLib.reference)) :
    signingPhase "intent" (batch signing) =
      upTo finalizes (signing ++ [.ok .batchFinalization]) := by
  rw [signingPhase, batch, past_cons_of_hit joins_batch, past_cons_of_miss rfl,
    past_cons_of_miss rfl, past_cons_of_hit rfl]

theorem eq_of_opened {topics : List String} {signing : List (StreamItem BatchLib.reference)}
    {events : History BatchLib.reference} {intentId : String}
    {stream : List (StreamItem BatchLib.reference)}
    (opened : Opened Sample.delegate (opening topics signing ++ events) intentId stream) :
    intentId = "intent" ∧ stream = batch signing := by
  obtain ⟨topics', before⟩ := opened
  simp only [opening, List.cons_append, List.nil_append, List.cons_prefix_cons] at before
  obtain ⟨-, registered, -, received, -⟩ := before
  cases registered
  cases received
  exact ⟨rfl, rfl⟩

end Sample

theorem forfeits_follow_tree_signatures_sample : ∃ topics,
    Emits (settleDelegate .reference Sample.info Sample.delegate Sample.cosignerKp).run
      (Sample.opening topics [Sample.nonces] ++ Sample.signed ++
        [.sent (.submitSignedForfeitTxs Sample.forfeits none)]) ∧
    TreeSigned Sample.cosignerKp Sample.node
      (Sample.opening topics [Sample.nonces] ++ Sample.signed) := by
  obtain ⟨topics, run⟩ := Sample.emits_ceremony [Sample.nonces] Sample.emits_signed
  rw [← List.append_assoc] at run
  obtain ⟨intentId, stream, tree, opened, built, exactly⟩ :=
    forfeits_follow_tree_signatures_iff signsNode_reference keepsNodes_reference run
  obtain ⟨rfl, rfl⟩ := Sample.eq_of_opened opened
  obtain rfl : Sample.node = tree := Except.ok.inj ((Sample.vtxoTree_batch _).symm.trans built)
  refine ⟨topics, run, exactly.mpr ?_⟩
  have nonced : noncedTxids Sample.cosignerKp.publicKey.xOnly
      (signingPhase "intent" (Sample.batch [Sample.nonces])) =
        {BitcoinLib.reference.computeTxid Sample.node.unsignedTx} := by
    rw [Sample.signingPhase_batch]
    exact noncedTxids_cons_of_own Sample.own_mem_nonces
  rw [nonced]
  exact ⟨Nat.one_pos, le_rfl⟩

/-- A server that goes from the nonces of the client straight to the forfeits gets them. -/
theorem forfeits_not_always_after_tree_signatures :
    ¬∀ (before after : History BatchLib.reference) (signedForfeits : List Psbt)
      (commitmentTx : Option Psbt),
      Emits (settleDelegate .reference Sample.info Sample.delegate Sample.cosignerKp).run
        (before ++ .sent (.submitSignedForfeitTxs signedForfeits commitmentTx) :: after) →
      ∃ intentId stream tree, Opened Sample.delegate before intentId stream ∧
        vtxoTree intentId stream = .ok tree ∧ TreeSigned Sample.cosignerKp tree before := by
  intro all
  obtain ⟨topics, run⟩ := Sample.emits_ceremony []
    (Sample.emits_forfeits rfl rfl)
  obtain ⟨intentId, stream, tree, -, -, signed⟩ := all _ _ _ _ run
  refine unsigned_of_no_signatures ?_ tree signed
  simp [Sample.opening, Sample.joined]

end Batch
end ArkadeEscrow
