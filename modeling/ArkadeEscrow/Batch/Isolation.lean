import ArkadeEscrow.Batch.Forfeits

/-!
# Whose batch the ceremony is in

An event stream may mix the events of several batches. The loop compares the id of an event
with the batch it has joined only when a batch fails; the other arms that use an id use the
one of the event. So the batches that a ceremony names in its messages are, in order, those
of the events in `heeded`, which the stream determines, and the ceremony keeps to its own
batch as far as these events do (`ceremony_isolated_iff`).

`Heeding` is the invariant of the loop: the batches named so far and those still to be heeded
make up `heeded`.
-/

set_option autoImplicit false

namespace ArkadeEscrow
namespace Batch

open Interaction Program

variable {L : BatchLib}

/-! ## The ids that count -/

/-- The batch that the event starts, if it includes the intent. -/
def startedBatch? (intentId : String) : StreamItem L → Option String
  | .ok (.batchStarted id intentIdHashes _) =>
      if intentIdHashes.contains (intentIdHash L intentId) then some id else none
  | _ => none

/-- The batch whose start the ceremony confirms: the first that includes the intent. -/
def joinedBatch (intentId : String) (stream : List (StreamItem L)) : Option String :=
  stream.findSome? (startedBatch? intentId)

def signingBatch? : StreamItem L → Option String
  | .ok (.treeSigningStarted id _ _) => some id
  | _ => none

/-- The batch and the node of an event that brings nonces, the own one among them. -/
def noncedBatch? (own : XOnlyPublicKey) : StreamItem L → Option (String × Txid)
  | .ok (.treeNonces id txid nonces) => if own ∈ nonces then some (id, txid) else none
  | _ => none

def finalizedBatch? : StreamItem L → Option (String × Txid)
  | .ok (.batchFinalized id commitmentTxid) => some (id, commitmentTxid)
  | _ => none

/-- The batches of the nonce events with which there are nonces for so many nodes. -/
def completing (own : XOnlyPublicKey) (nodes : Nat) :
    Finset Txid → List (StreamItem L) → List String
  | _, [] => []
  | seen, item :: items =>
      match noncedBatch? own item with
      | none => completing own nodes seen items
      | some (id, txid) =>
          let rest := completing own nodes (insert txid seen) items
          if (insert txid seen).card = nodes then id :: rest else rest

/-- The batches of the events that the ceremony answers with nonces or signatures. -/
def heeded (own : XOnlyPublicKey) (intentId : String) (stream : List (StreamItem L)) :
    List String :=
  ((past (joins intentId) stream).findSome? signingBatch?).toList ++
    match vtxoTree intentId stream with
    | .ok tree => completing own (L.nbOfNodes tree) ∅ (signingPhase intentId stream)
    | .error _ => []

/-- The `BatchFinalized` that ends the ceremony. -/
def ending (intentId : String) (stream : List (StreamItem L)) : Option (String × Txid) :=
  (past finalizes (past startsSigning (past (joins intentId) stream))).findSome? finalizedBatch?

/-- The batch that a message names. -/
def namedBatch? : Event (interface L) → Option String
  | .sent (.submitTreeNonces batchId _ _) => some batchId
  | .sent (.submitTreeSignatures batchId _ _) => some batchId
  | _ => none

def namedBatches (h : History L) : List String := h.filterMap namedBatch?

/-! ## The requirement -/

/-- The intent has been confirmed when this batch started. -/
def Joined (delegate : Delegate L) (h : History L) (intentId : String)
    (stream : List (StreamItem L)) (id : String) : Prop :=
  Opened delegate h intentId stream ∧ .answered (.confirmRegistration intentId) (.ok ()) ∈ h ∧
    joinedBatch intentId stream = some id

/-- Every message names the batch that has been joined, and so does the `BatchFinalized`
whose commitment txid is returned. -/
def Isolated (delegate : Delegate L) (h : History L)
    (t : Thread (interface L) (Except Error Txid)) : Prop :=
  (∀ id ∈ namedBatches h, ∃ intentId stream, Joined delegate h intentId stream id) ∧
  ∀ txid, t = .running (.done (.ok txid)) → ∃ intentId stream id,
    Joined delegate h intentId stream id ∧ .ok (.batchFinalized id txid) ∈ stream

/-- The events that the ceremony has acted on belong to the batch that it has joined. The
`BatchFinalized` may be that of another batch with the same commitment txid. -/
def Undisturbed (delegate : Delegate L) (own : XOnlyPublicKey) (h : History L)
    (t : Thread (interface L) (Except Error Txid)) : Prop :=
  ∀ intentId stream, Opened delegate h intentId stream →
    (∀ id ∈ (heeded own intentId stream).take (namedBatches h).length,
      joinedBatch intentId stream = some id) ∧
    ((∃ txid, t = .running (.done (.ok txid))) → ∃ id other txid,
      joinedBatch intentId stream = some id ∧ ending intentId stream = some (other, txid) ∧
        .ok (.batchFinalized id txid) ∈ stream)

/-- A message names the next of the batches that the stream determines. -/
def BatchesAllowed (delegate : Delegate L) (own : XOnlyPublicKey) (h : History L)
    (request : Ask L) : Prop :=
  ∀ id, namedBatch? (.sent request) = some id → ∃ intentId stream,
    Opened delegate h intentId stream ∧
      .answered (.confirmRegistration intentId) (.ok ()) ∈ h ∧
        namedBatches h ++ [id] <+: heeded own intentId stream

variable {B : BitcoinLib} {info : Info} {delegate : Delegate L} {cosignerKp : Keypair}
variable {intentId : String} {tree : L.TxGraph} {own : XOnlyPublicKey}

theorem Opened.unique {h : History L} {intentId' : String} {stream stream' : List (StreamItem L)}
    (opened : Opened delegate h intentId stream) (opened' : Opened delegate h intentId' stream') :
    intentId' = intentId ∧ stream' = stream := by
  obtain ⟨topics, before⟩ := opened
  obtain ⟨topics', before'⟩ := opened'
  have same := List.prefix_of_prefix_length_le before' before le_rfl
  simp only [List.cons_prefix_cons] at same
  obtain ⟨-, registered, -, received, -⟩ := same
  cases registered
  cases received
  exact ⟨rfl, rfl⟩

theorem namedBatches_append {h more : History L} :
    namedBatches (h ++ more) = namedBatches h ++ namedBatches more :=
  List.filterMap_append

theorem permits_silent {request : Ask L} {rest : Ask.Answer L request → History L → Prop}
    {h : History L} (silent : namedBatch? (.sent request : Event (interface L)) = none)
    (answered : ∀ answer, rest answer (h ++ [.sent request, .answered request answer])) :
    Permits (historian (interface L)) (.guard (BatchesAllowed delegate own)) request rest h := by
  refine permits_historian ?_ answered
  intro id named
  rw [silent] at named
  cases named

theorem namedBatches_silent {h : History L} {request : Ask L} {answer : Ask.Answer L request}
    (silent : namedBatch? (.sent request : Event (interface L)) = none) :
    namedBatches (h ++ [.sent request, .answered request answer]) = namedBatches h := by
  rw [namedBatches_append]
  simp only [namedBatches]
  rw [List.filterMap_cons_none silent, List.filterMap_cons_none rfl, List.filterMap_nil,
    List.append_nil]

theorem namedBatches_named {h : History L} {request : Ask L} {answer : Ask.Answer L request}
    {id : String} (named : namedBatch? (.sent request : Event (interface L)) = some id) :
    namedBatches (h ++ [.sent request, .answered request answer]) = namedBatches h ++ [id] := by
  rw [namedBatches_append]
  simp only [namedBatches]
  rw [List.filterMap_cons_some named, List.filterMap_cons_none rfl, List.filterMap_nil]

/-! ## The events still to be heeded -/

theorem heeded_of_started {stream : List (StreamItem L)} {id : String}
    (started : (past (joins intentId) stream).findSome? signingBatch? = some id)
    (built : vtxoTree intentId stream = .ok tree) : heeded own intentId stream =
      id :: completing own (L.nbOfNodes tree) ∅ (signingPhase intentId stream) := by
  rw [heeded, started, built]
  rfl

theorem completing_of_none {nodes : Nat} {seen : Finset Txid} {item : StreamItem L}
    {items : List (StreamItem L)} (other : noncedBatch? own item = none) :
    completing own nodes seen (item :: items) = completing own nodes seen items := by
  rw [completing, other]

theorem completing_of_own {nodes : Nat} {seen : Finset Txid} {items : List (StreamItem L)}
    {id : String} {txid : Txid} {nonces : BTreeMap XOnlyPublicKey L.PublicNonce}
    (member : own ∈ nonces) :
    completing own nodes seen (.ok (.treeNonces id txid nonces) :: items) =
      if (insert txid seen).card = nodes then
        id :: completing own nodes (insert txid seen) items
      else completing own nodes (insert txid seen) items := by
  rw [completing, noncedBatch?, if_pos member]

theorem completing_of_foreign {nodes : Nat} {seen : Finset Txid} {items : List (StreamItem L)}
    {id : String} {txid : Txid} {nonces : BTreeMap XOnlyPublicKey L.PublicNonce}
    (absent : own ∉ nonces) :
    completing own nodes seen (.ok (.treeNonces id txid nonces) :: items) =
      completing own nodes seen items :=
  completing_of_none (if_neg absent)

/-! ## The phases of a ceremony -/

/-- How far a ceremony over the stream `whole` has come, when this much of it is left. -/
inductive Heeded (own : XOnlyPublicKey) (intentId : String) (whole stream : List (StreamItem L))
    (s : State L) (h : History L) : Prop where
  | waiting (waiting : Waiting s) (unnamed : namedBatches h = [])
      (rest : past (joins intentId) stream = past (joins intentId) whole)
  | collecting {chunks : List L.TxGraphChunk} (collecting : Collecting chunks s)
      (confirmed : .answered (.confirmRegistration intentId) (.ok ()) ∈ h)
      (unnamed : namedBatches h = [])
      (total : chunks ++ (upTo startsSigning stream).filterMap vtxoChunk? =
        (collectingPhase intentId whole).filterMap vtxoChunk?)
      (started : stream.findSome? signingBatch? =
        (past (joins intentId) whole).findSome? signingBatch?)
      (rest : past startsSigning stream = past startsSigning (past (joins intentId) whole))
  | signing {tree : L.TxGraph} {seen : Finset Txid} (signing : Signing tree seen s)
      (confirmed : .answered (.confirmRegistration intentId) (.ok ()) ∈ h)
      (total : namedBatches h ++
        completing own (L.nbOfNodes tree) seen (upTo finalizes stream) =
          heeded own intentId whole)
      (rest : past finalizes stream =
        past finalizes (past startsSigning (past (joins intentId) whole)))
  | finalized (step : s.step = .finalized)
      (confirmed : .answered (.confirmRegistration intentId) (.ok ()) ∈ h)
      (named : namedBatches h <+: heeded own intentId whole)
      (rest : stream.findSome? finalizedBatch? = ending intentId whole)

/-- **The invariant of the loop.** -/
structure Heeding (delegate : Delegate L) (own : XOnlyPublicKey) (intentId : String)
    (whole stream : List (StreamItem L)) (s : State L) (h : History L) : Prop where
  opened : Opened delegate h intentId whole
  phase : Heeded own intentId whole stream s h

theorem Heeding.named {whole stream : List (StreamItem L)} {s : State L} {h : History L}
    (heeding : Heeding delegate own intentId whole stream s h) :
    namedBatches h <+: heeded own intentId whole := by
  cases heeding.phase with
  | waiting _ unnamed _ => exact unnamed ▸ List.nil_prefix
  | collecting _ _ unnamed _ _ _ => exact unnamed ▸ List.nil_prefix
  | signing _ _ total _ => exact total ▸ List.prefix_append _ _
  | finalized _ _ named _ => exact named

section Turn

variable {whole stream : List (StreamItem L)} {event : StreamEvent L} {s : State L}
  {h : History L} (opened : Opened delegate h intentId whole)
include opened

/-- Once the batch is finalized, its end is waited for. -/
theorem heeds_finalized (step : s.step = .finalized)
    (confirmed : .answered (.confirmRegistration intentId) (.ok ()) ∈ h)
    (named : namedBatches h <+: heeded own intentId whole)
    (rest : List.findSome? finalizedBatch? (.ok event :: stream) = ending intentId whole) :
    Turns (historian (interface L)) (.guard (BatchesAllowed delegate own))
      (Heeding delegate own intentId whole stream)
      (onEvent B info delegate cosignerKp intentId s event) h := by
  by_cases awaited : awaits s.step event = true
  · rw [step] at awaited
    cases event with
    | batchFinalized id commitmentTxid =>
        intro s' same
        simp [onBatchFinalized, step] at same
    | batchFailed id reason =>
        exact turns_onBatchFailed fun _ => ⟨opened, .finalized step confirmed named rest⟩
    | _ => cases awaited
  · refine turns_of_not_awaits (eq_false_of_ne_true awaited)
      ⟨opened, .finalized step confirmed named ?_⟩
    rw [← rest]
    rw [step] at awaited
    cases event with
    | batchFinalized id commitmentTxid => exact absurd rfl awaited
    | _ => rfl

/-- A turn before a batch has been joined. -/
theorem heeds_waiting (waiting : Waiting s) (unnamed : namedBatches h = [])
    (rest : past (joins intentId) (.ok event :: stream) = past (joins intentId) whole) :
    Turns (historian (interface L)) (.guard (BatchesAllowed delegate own))
      (Heeding delegate own intentId whole stream)
      (onEvent B info delegate cosignerKp intentId s event) h := by
  by_cases awaited : awaits s.step event = true
  · rw [waiting.step] at awaited
    cases event with
    | batchStarted id intentIdHashes batchExpiry =>
        have verdict : joins intentId
            (.ok (.batchStarted id intentIdHashes batchExpiry) : StreamItem L) =
              intentIdHashes.contains (intentIdHash L intentId) := rfl
        refine turns_onBatchStarted ?_ fun _ included => ?_
        · intro either
          rcases either with other | excluded
          · exact absurd waiting.step other
          · rw [past_cons_of_miss (verdict.trans excluded)] at rest
            exact ⟨opened, .waiting waiting unnamed rest⟩
        · rw [past_cons_of_hit (verdict.trans included)] at rest
          refine permits_silent rfl ?_
          rintro answer rfl
          have collecting : Collecting []
              { s with
                batchId := some id
                batchExpiry := some batchExpiry
                step := .batchStarted } := ⟨rfl, waiting.chunks, waiting.nonces⟩
          refine ⟨opened.mono, .collecting collecting (by simp) ?_ ?_ ?_ ?_⟩
          · rw [namedBatches_silent rfl, unnamed]
          · rw [List.nil_append, collectingPhase, rest]
          · rw [rest]
          · rw [rest]
    | batchFailed id reason =>
        rw [past_cons_of_miss rfl] at rest
        exact turns_onBatchFailed fun _ => ⟨opened, .waiting waiting unnamed rest⟩
    | _ => cases awaited
  · have idle := eq_false_of_ne_true awaited
    rw [waiting.step] at idle
    have other : joins intentId (.ok event : StreamItem L) = false := by
      cases event with
      | batchStarted id intentIdHashes batchExpiry => cases idle
      | _ => rfl
    rw [past_cons_of_miss other] at rest
    exact turns_of_not_awaits (eq_false_of_ne_true awaited)
      ⟨opened, .waiting waiting unnamed rest⟩

/-- The signing starts: the nonces name the batch of the event. -/
theorem heeds_start {chunks : List L.TxGraphChunk} (collecting : Collecting chunks s)
    (confirmed : .answered (.confirmRegistration intentId) (.ok ()) ∈ h)
    (unnamed : namedBatches h = [])
    (total : chunks = (collectingPhase intentId whole).filterMap vtxoChunk?) {id : String}
    (started : (past (joins intentId) whole).findSome? signingBatch? = some id)
    (rest : stream = past startsSigning (past (joins intentId) whole))
    {cosigners : List PublicKey} {commitTx : Psbt} :
    Turns (historian (interface L)) (.guard (BatchesAllowed delegate own))
      (Heeding delegate own intentId whole stream)
      (onTreeSigningStarted cosignerKp s id cosigners commitTx) h := by
  refine turns_onTreeSigningStarted (fun other => absurd collecting.step other) ?_
  intro _ chunks' tree present built _
  obtain rfl : chunks = chunks' := Option.some.inj (collecting.chunks.symm.trans present)
  rw [total] at built
  have all : heeded own intentId whole =
      id :: completing own (L.nbOfNodes tree) ∅ (signingPhase intentId whole) :=
    heeded_of_started started built
  refine permits_silent rfl fun entropy nonceTree _ => ?_
  refine permits_historian ?_ fun answer _ => ⟨opened.mono.mono, ?_⟩
  · rintro _ ⟨⟩
    refine ⟨intentId, whole, opened.mono, by simp [confirmed], ?_⟩
    rw [namedBatches_silent rfl, unnamed, all]
    exact List.prefix_append [id] _
  have signing : Signing tree ∅
      { s with
        vtxoGraphChunks := none
        vtxoGraph := some tree
        unsignedCommitmentTx := some commitTx
        ourNonceTrees := some nonceTree
        step := .batchSigningStarted } :=
    { step := rfl
      graph := ⟨tree, rfl, rfl, rfl⟩
      keys := by simp [collecting.nonces]
      size := by simp [collecting.nonces] }
  refine .signing signing (by simp [confirmed]) ?_ (by rw [rest])
  rw [namedBatches_named rfl, namedBatches_silent rfl, unnamed, all, rest]
  rfl

/-- A turn while the nodes of the tree are collected. -/
theorem heeds_collecting {chunks : List L.TxGraphChunk} (collecting : Collecting chunks s)
    (confirmed : .answered (.confirmRegistration intentId) (.ok ()) ∈ h)
    (unnamed : namedBatches h = [])
    (total : chunks ++ (upTo startsSigning (.ok event :: stream)).filterMap vtxoChunk? =
      (collectingPhase intentId whole).filterMap vtxoChunk?)
    (started : List.findSome? signingBatch? (.ok event :: stream) =
      (past (joins intentId) whole).findSome? signingBatch?)
    (rest : past startsSigning (.ok event :: stream) =
      past startsSigning (past (joins intentId) whole)) :
    Turns (historian (interface L)) (.guard (BatchesAllowed delegate own))
      (Heeding delegate own intentId whole stream)
      (onEvent B info delegate cosignerKp intentId s event) h := by
  by_cases awaited : awaits s.step event = true
  · rw [collecting.step] at awaited
    cases event with
    | treeTx kind chunk =>
        rw [upTo_cons_of_miss rfl] at total
        rw [past_cons_of_miss rfl] at rest
        refine turns_onTreeTx ?_ ?_ ?_
        · exact fun other => absurd collecting.step other.1
        · rintro _ rfl chunks' present
          obtain rfl : chunks = chunks' := Option.some.inj (collecting.chunks.symm.trans present)
          refine ⟨opened, .collecting ⟨collecting.step, rfl, collecting.nonces⟩ confirmed unnamed
            ?_ started rest⟩
          rw [← total, List.append_assoc]
          rfl
        · rintro _ rfl chunks' _
          exact ⟨opened, .collecting ⟨collecting.step, collecting.chunks, collecting.nonces⟩
            confirmed unnamed total started rest⟩
    | treeSigningStarted id cosigners commitTx =>
        rw [upTo_cons_of_hit rfl, List.filterMap_nil, List.append_nil] at total
        rw [past_cons_of_hit rfl] at rest
        exact heeds_start opened collecting confirmed unnamed total started.symm rest
    | batchFailed id reason =>
        rw [upTo_cons_of_miss rfl] at total
        rw [past_cons_of_miss rfl] at rest
        exact turns_onBatchFailed fun _ =>
          ⟨opened, .collecting collecting confirmed unnamed total started rest⟩
    | _ => cases awaited
  · have idle := eq_false_of_ne_true awaited
    rw [collecting.step] at idle
    have other : startsSigning (.ok event : StreamItem L) = false ∧
        signingBatch? (.ok event : StreamItem L) = none ∧
          vtxoChunk? (.ok event : StreamItem L) = none := by
      cases event with
      | treeTx kind chunk => cases idle
      | treeSigningStarted id cosigners commitTx => cases idle
      | _ => exact ⟨rfl, rfl, rfl⟩
    rw [upTo_cons_of_miss other.1, List.filterMap_cons_none other.2.2] at total
    rw [past_cons_of_miss other.1] at rest
    rw [List.findSome?_cons, other.2.1] at started
    exact turns_of_not_awaits (eq_false_of_ne_true awaited)
      ⟨opened, .collecting collecting confirmed unnamed total started rest⟩

section Signing

variable {seen : Finset Txid} (signing : Signing tree seen s)
  (confirmed : .answered (.confirmRegistration intentId) (.ok ()) ∈ h)
include signing confirmed

/-- The nonces of a node. With the last of them, the signatures name the batch of the
event. -/
theorem heeds_nonces {id : String} {txid : Txid} {nonces : BTreeMap XOnlyPublicKey L.PublicNonce}
    (total : namedBatches h ++ completing cosignerKp.publicKey.xOnly (L.nbOfNodes tree) seen
        (.ok (.treeNonces id txid nonces) :: upTo finalizes stream) =
      heeded cosignerKp.publicKey.xOnly intentId whole)
    (rest : past finalizes stream =
      past finalizes (past startsSigning (past (joins intentId) whole))) :
    Turns (historian (interface L))
      (.guard (BatchesAllowed delegate cosignerKp.publicKey.xOnly))
      (Heeding delegate cosignerKp.publicKey.xOnly intentId whole stream)
      (onTreeNonces info.forfeitPk.xOnly cosignerKp s id txid nonces) h := by
  obtain ⟨tree', present', -, count⟩ := signing.graph
  refine turns_onTreeNonces ?_ ?_ ?_
  · intro either
    rcases either with other | other
    · exact absurd signing.step other
    · rw [completing_of_foreign other] at total
      exact ⟨opened, .signing signing confirmed total rest⟩
  · intro _ own graph aggNoncePks present inserted incomplete
    have signing' := signing.insert inserted s.ourNonceTrees
    obtain rfl : graph = tree' := Option.some.inj (present.symm.trans present')
    have other : (insert txid seen).card ≠ L.nbOfNodes tree := by
      rw [← signing'.size, ← count]
      exact incomplete
    rw [completing_of_own own, if_neg other] at total
    exact ⟨opened, .signing signing' confirmed total rest⟩
  · intro _ own graph aggNoncePks nonceTree commitTx expiry partialSigs nonceTree' present
      inserted complete _ _ _ _
    have signing' := signing.insert inserted (some nonceTree')
    obtain rfl : graph = tree' := Option.some.inj (present.symm.trans present')
    have last : (insert txid seen).card = L.nbOfNodes tree := by
      rw [← signing'.size, ← count]
      exact complete
    rw [completing_of_own own, if_pos last] at total
    refine permits_historian ?_ fun answer _ => ⟨opened.mono, ?_⟩
    · rintro _ ⟨⟩
      refine ⟨intentId, whole, opened, confirmed, ?_⟩
      rw [← total]
      exact ⟨_, List.append_assoc _ [id] _⟩
    · refine .signing signing' (by simp [confirmed]) ?_ rest
      rw [namedBatches_named rfl, ← total, List.append_assoc]
      rfl

/-- A turn of the signing phase. -/
theorem heeds_signing (keeps : KeepsNodes L B)
    (total : namedBatches h ++ completing cosignerKp.publicKey.xOnly (L.nbOfNodes tree) seen
        (upTo finalizes (.ok event :: stream)) =
      heeded cosignerKp.publicKey.xOnly intentId whole)
    (rest : past finalizes (.ok event :: stream) =
      past finalizes (past startsSigning (past (joins intentId) whole))) :
    Turns (historian (interface L))
      (.guard (BatchesAllowed delegate cosignerKp.publicKey.xOnly))
      (Heeding delegate cosignerKp.publicKey.xOnly intentId whole stream)
      (onEvent B info delegate cosignerKp intentId s event) h := by
  by_cases last : finalizes (.ok event : StreamItem L) = true
  · cases event with
    | batchFinalization =>
        rw [upTo_cons_of_hit last, completing, List.append_nil] at total
        rw [past_cons_of_hit last] at rest
        have named : namedBatches h <+: heeded cosignerKp.publicKey.xOnly intentId whole :=
          total ▸ List.prefix_rfl
        have finish : stream.findSome? finalizedBatch? = ending intentId whole := by
          rw [ending, ← rest]
        refine turns_onBatchFinalization (fun other => absurd signing.step other) ?_ ?_
        · intro _ _
          exact ⟨opened, .finalized rfl confirmed named finish⟩
        · intro _ chunks connectors signedForfeits _ _ _ _
          refine permits_silent rfl fun answer _ =>
            ⟨opened.mono, .finalized rfl (by simp [confirmed]) ?_ finish⟩
          rw [namedBatches_silent rfl]
          exact named
    | _ => cases last
  · replace last := eq_false_of_ne_true last
    rw [upTo_cons_of_miss last] at total
    rw [past_cons_of_miss last] at rest
    cases event with
    | treeTx kind chunk =>
        rw [completing_of_none rfl] at total
        refine turns_onTreeTx ?_ ?_ ?_
        · exact fun other => absurd signing.step other.2
        · intro _ _ chunks _
          exact ⟨opened, .signing
            ⟨signing.step, signing.graph, signing.keys, signing.size⟩ confirmed total rest⟩
        · intro _ _ chunks _
          exact ⟨opened, .signing
            ⟨signing.step, signing.graph, signing.keys, signing.size⟩ confirmed total rest⟩
    | treeSignature kind txid signature =>
        rw [completing_of_none rfl] at total
        apply turns_onTreeSignature ⟨opened, .signing signing confirmed total rest⟩
        intro _ graph graph' present recorded
        exact ⟨opened, .signing (signing.record keeps present recorded) confirmed total rest⟩
    | treeNonces id txid nonces => exact heeds_nonces opened signing confirmed total rest
    | batchFailed id reason =>
        rw [completing_of_none rfl] at total
        exact turns_onBatchFailed fun _ => ⟨opened, .signing signing confirmed total rest⟩
    | batchFinalization => cases last
    | _ =>
        rw [completing_of_none rfl] at total
        refine turns_of_not_awaits ?_ ⟨opened, .signing signing confirmed total rest⟩
        rw [signing.step]
        rfl

end Signing

end Turn

/-! ## The whole ceremony -/

/-- **Every turn preserves the invariant**, and names the batch of the next heeded event. -/
theorem Heeding.turns (keeps : KeepsNodes L B) {whole stream : List (StreamItem L)}
    {event : StreamEvent L} {s : State L} {h : History L}
    (heeding : Heeding delegate cosignerKp.publicKey.xOnly intentId whole (.ok event :: stream)
      s h) :
    Turns (historian (interface L))
      (.guard (BatchesAllowed delegate cosignerKp.publicKey.xOnly))
      (Heeding delegate cosignerKp.publicKey.xOnly intentId whole stream)
      (onEvent B info delegate cosignerKp intentId s event) h := by
  obtain ⟨opened, phase⟩ := heeding
  cases phase with
  | waiting waiting unnamed rest => exact heeds_waiting opened waiting unnamed rest
  | collecting collecting confirmed unnamed total started rest =>
      exact heeds_collecting opened collecting confirmed unnamed total started rest
  | signing signing confirmed total rest =>
      exact heeds_signing opened signing confirmed keeps total rest
  | finalized step confirmed named rest =>
      exact heeds_finalized opened step confirmed named rest

/-- What is returned: the txid of the `BatchFinalized` that ends the ceremony. -/
def EndsWith (delegate : Delegate L) (txid : Txid) (h : History L) : Prop :=
  ∃ intentId stream other, Opened delegate h intentId stream ∧
    .answered (.confirmRegistration intentId) (.ok ()) ∈ h ∧
      ending intentId stream = some (other, txid)

theorem achieves_settleDelegate (keeps : KeepsNodes L B) :
    Fallible.Achieves (historian (interface L))
      (.guard (BatchesAllowed delegate cosignerKp.publicKey.xOnly)) (EndsWith delegate)
      (settleDelegate B info delegate cosignerKp) [] := by
  refine Fallible.achieves_bind.mpr fun _ _ => ?_
  refine Fallible.achieves_bind.mpr fun outpoints _ => ?_
  refine Fallible.achieves_bind.mpr (permits_silent rfl fun registered => ?_)
  intro intentId known
  obtain rfl : registered = .ok intentId := printed_eq_ok_iff.mp known
  refine Fallible.achieves_bind.mpr (permits_silent rfl fun opened => ?_)
  intro stream received
  obtain rfl : opened = .ok stream := printed_eq_ok_iff.mp received
  refine achieves_eventLoop
    (Heeding delegate cosignerKp.publicKey.xOnly intentId stream)
    (fun _ _ _ _ => Heeding.turns keeps) ?_ ⟨⟨_, List.prefix_rfl⟩, ?_⟩
  · rintro id txid rest s h step ⟨opened, phase⟩
    cases phase with
    | waiting waiting _ _ => cases step.symm.trans waiting.step
    | collecting collecting _ _ _ _ _ => cases step.symm.trans collecting.step
    | signing signing _ _ _ => cases step.symm.trans signing.step
    | finalized _ confirmed _ rest => exact ⟨intentId, stream, id, opened, confirmed, rest.symm⟩
  · exact .waiting ⟨rfl, rfl, rfl⟩ rfl rfl

/-- The batches named so far are the first of those to be heeded. -/
theorem namedBatches_prefix {h : History L}
    (guarded : Guarded (BatchesAllowed delegate own) h) : namedBatches h = [] ∨
      ∃ intentId stream, Opened delegate h intentId stream ∧
        .answered (.confirmRegistration intentId) (.ok ()) ∈ h ∧
          namedBatches h <+: heeded own intentId stream := by
  rcases List.eq_nil_or_concat (namedBatches h) with none | ⟨ids, id, all⟩
  · exact .inl none
  · rw [List.concat_eq_append] at all
    -- the last message that names a batch
    obtain ⟨before, after, rfl, earlier, last⟩ := List.filterMap_eq_append_iff.mp all
    obtain ⟨others, event, rest, rfl, silent, named, _⟩ := List.filterMap_eq_cons_iff.mp last
    have unnamed : namedBatches others = [] := List.filterMap_eq_nil_iff.mpr silent
    cases event with
    | sent request =>
        obtain ⟨intentId, stream, opened, confirmed, next⟩ := guarded (before ++ others) request
          rest (List.append_assoc before others _).symm id named
        rw [namedBatches_append, unnamed, List.append_nil] at next
        refine .inr ⟨intentId, stream, ?_, ?_, ?_⟩
        · rw [← List.append_assoc]
          exact opened.mono
        · rw [← List.append_assoc]
          exact List.mem_append_left _ confirmed
        · rw [all]
          exact earlier ▸ next
    | noted remark => cases named
    | answered request answer => cases named

/-- **When a ceremony keeps to its own batch.** In every run, each nonce and signature message
names the batch whose start has been confirmed, and a txid that is returned is that of a
`BatchFinalized` of this batch, if and only if the events that the ceremony has acted on
belong to this batch. -/
theorem ceremony_isolated_iff (keeps : KeepsNodes L B) {h : History L}
    {t : Thread (interface L) (Except Error Txid)}
    (run : Evolves (settleDelegate B info delegate cosignerKp).run h t) :
    Isolated delegate h t ↔ Undisturbed delegate cosignerKp.publicKey.xOnly h t := by
  have upheld := run.upholds (D := .guard (BatchesAllowed delegate cosignerKp.publicKey.xOnly))
    trivial (@achieves_settleDelegate L B info _ _ keeps)
  obtain ⟨thread, guarded⟩ := upheld
  have ends : ∀ txid, t = .running (.done (.ok txid)) → EndsWith delegate txid h := by
    rintro txid rfl
    exact thread.2 txid rfl
  have named := namedBatches_prefix guarded
  constructor
  · rintro ⟨messages, result⟩ intentId stream opened
    constructor
    · intro id member
      rcases named with none | ⟨intentId', stream', opened', _, first⟩
      · rw [none] at member
        cases member
      · obtain ⟨rfl, rfl⟩ := opened.unique opened'
        rw [← List.prefix_iff_eq_take.mp first] at member
        obtain ⟨intentId'', stream'', opened'', _, joined⟩ := messages id member
        obtain ⟨rfl, rfl⟩ := opened.unique opened''
        exact joined
    · rintro ⟨txid, finished⟩
      obtain ⟨intentId', stream', other, opened', _, last⟩ := ends txid finished
      obtain ⟨rfl, rfl⟩ := opened.unique opened'
      obtain ⟨intentId'', stream'', id, ⟨opened'', _, joined⟩, member⟩ := result txid finished
      obtain ⟨rfl, rfl⟩ := opened.unique opened''
      exact ⟨id, other, txid, joined, last, member⟩
  · intro undisturbed
    constructor
    · intro id member
      rcases named with none | ⟨intentId, stream, opened, confirmed, first⟩
      · rw [none] at member
        cases member
      · rw [List.prefix_iff_eq_take.mp first] at member
        exact ⟨intentId, stream, opened, confirmed,
          (undisturbed intentId stream opened).1 id member⟩
    · intro txid finished
      obtain ⟨intentId, stream, other, opened, confirmed, last⟩ := ends txid finished
      obtain ⟨id, other', txid', joined, last', member⟩ :=
        (undisturbed intentId stream opened).2 ⟨txid, finished⟩
      cases last.symm.trans last'
      exact ⟨intentId, stream, id, ⟨opened, confirmed, joined⟩, member⟩

/-! ## A ceremony of its own batch, and one that answers another -/

namespace Sample

open ArkadeEscrow.Sample BitcoinLib

theorem joinedBatch_batch (rest : List (StreamItem BatchLib.reference)) :
    joinedBatch "intent" (.ok (.batchStarted "batch" [intentIdHash BatchLib.reference "intent"] 144)
      :: rest) = some "batch" := by
  simp [joinedBatch, startedBatch?]

/-- What is heard of another batch while the tree is signed. -/
noncomputable def foreign : List (StreamItem BatchLib.reference) :=
  [.ok (.batchStarted "other" [intentIdHash BatchLib.reference "another intent"] 144),
    .ok (.treeNonces "other" (reference.computeTxid node.unsignedTx) ∅),
    .ok (.batchFailed "other" "out of funds")]

/-- It is passed over. -/
theorem emits_foreign :
    Emits (eventLoop reference Sample.info Sample.delegate Sample.cosignerKp "intent" signingState
      ((foreign ++ [nonces]) ++ [.ok .batchFinalization])).run
      (signed ++ [.sent (.submitSignedForfeitTxs forfeits none)]) := by
  have absent : Sample.cosignerKp.publicKey.xOnly ∉ (∅ : BTreeMap XOnlyPublicKey Unit) := by simp
  have started : Skipped Sample.cosignerKp "intent" signingState (.batchStarted "other"
    [intentIdHash BatchLib.reference "another intent"] 144) := .inl (by simp [signingState])
  have nonced : Skipped Sample.cosignerKp "intent" signingState
    (.treeNonces "other" (reference.computeTxid node.unsignedTx) ∅) := .inr absent
  have failed : Skipped Sample.cosignerKp "intent" signingState
      (.batchFailed "other" "out of funds") := by
    simp [Skipped, signingState]
  -- each event is answered with nothing
  show Emits _ ([] ++ ([] ++ ([] ++ (signed ++ [.sent (.submitSignedForfeitTxs forfeits none)]))))
  refine emits_eventLoop_cons (returns_skipped started) ?_
  refine emits_eventLoop_cons (returns_skipped nonced) ?_
  exact emits_eventLoop_cons (returns_skipped failed) emits_signed

theorem heeded_batch : heeded Sample.cosignerKp.publicKey.xOnly "intent"
    (batch (foreign ++ [nonces])) = ["batch", "batch"] := by
  have started : (past (joins "intent") (batch (foreign ++ [nonces]))).findSome? signingBatch? =
      some "batch" := by
    rw [batch, past_cons_of_hit joins_batch]
    rfl
  have signing : signingPhase "intent" (batch (foreign ++ [nonces])) = foreign ++ [nonces] := by
    rw [signingPhase_batch]
    rfl
  have absent : Sample.cosignerKp.publicKey.xOnly ∉ (∅ : BTreeMap XOnlyPublicKey Unit) := by simp
  have complete : completing Sample.cosignerKp.publicKey.xOnly 1 ∅ (foreign ++ [nonces]) =
      ["batch"] := by
    refine (completing_of_none rfl).trans ((completing_of_foreign absent).trans ?_)
    exact (completing_of_none rfl).trans
      ((completing_of_own own_mem_nonces).trans (if_pos rfl))
  rw [heeded_of_started started (vtxoTree_batch _), signing]
  exact congrArg (List.cons "batch") complete

/-- A batch starts, and the signing of another. -/
noncomputable def strange : List (StreamItem BatchLib.reference) :=
  [.ok (.batchStarted "batch" [intentIdHash BatchLib.reference "intent"] 144),
    .ok (.treeTx .vtxo node),
    .ok (.treeSigningStarted "other" [Sample.cosignerKp.publicKey] commitmentTx)]

/-- What the client shows. -/
noncomputable def answeringOther (topics : List String) : History BatchLib.reference :=
  [.sent (.registerIntent Sample.delegate.intent),
    .answered (.registerIntent Sample.delegate.intent) (.ok "intent"),
    .sent (.getEventStream topics), .answered (.getEventStream topics) (.ok strange),
    .sent (.confirmRegistration "intent"), .answered (.confirmRegistration "intent") (.ok ()),
    .sent .random, .answered .random (),
    .sent (.submitTreeNonces "other" Sample.cosignerKp.publicKey
      [reference.computeTxid node.unsignedTx]),
    .answered (.submitTreeNonces "other" Sample.cosignerKp.publicKey
      [reference.computeTxid node.unsignedTx]) (.ok ())]

theorem emits_strange : ∃ topics,
    Emits (settleDelegate reference Sample.info Sample.delegate Sample.cosignerKp).run
      (answeringOther topics) := by
  have included : [intentIdHash BatchLib.reference "intent"].contains
      (intentIdHash BatchLib.reference "intent") = true := by simp
  have cosigns : [Sample.cosignerKp.publicKey].contains Sample.cosignerKp.publicKey = true := by
    simp
  have start := @returns_onTreeSigningStarted BatchLib.reference Sample.cosignerKp
    { collected with connectorsGraphChunks := some [] } "other" [Sample.cosignerKp.publicKey]
    commitmentTx
    [node] node _ () rfl rfl rfl cosigns rfl
  have loop : Emits (eventLoop reference Sample.info Sample.delegate Sample.cosignerKp "intent"
      (.initial BatchLib.reference) strange).run ((answeringOther []).drop 4) := by
    -- the node is answered with nothing
    show Emits _ (((answeringOther []).drop 4).take 2 ++ ([] ++ (answeringOther []).drop 6))
    refine emits_eventLoop_cons (returns_onBatchStarted rfl included) ?_
    refine emits_eventLoop_cons (returns_onTreeTx_vtxo rfl rfl) ?_
    exact emits_eventLoop_head ⟨_, start⟩
  exact emits_settleDelegate strange rfl rfl loop

end Sample

/-- A ceremony that keeps to its batch, while another one goes on. -/
theorem ceremony_isolated_sample : ∃ topics t,
    Evolves (settleDelegate .reference Sample.info Sample.delegate Sample.cosignerKp).run
      (Sample.opening topics (Sample.foreign ++ [Sample.nonces]) ++
        (Sample.signed ++ [.sent (.submitSignedForfeitTxs Sample.forfeits none)])) t ∧
    Isolated Sample.delegate (Sample.opening topics (Sample.foreign ++ [Sample.nonces]) ++
      (Sample.signed ++ [.sent (.submitSignedForfeitTxs Sample.forfeits none)])) t := by
  obtain ⟨topics, t, run⟩ := Sample.emits_ceremony _ Sample.emits_foreign
  refine ⟨topics, t, run, (ceremony_isolated_iff keepsNodes_reference run).mpr ?_⟩
  intro intentId stream opened
  obtain ⟨rfl, rfl⟩ := Sample.eq_of_opened opened
  constructor
  · intro id member
    have heeded := List.mem_of_mem_take member
    rw [Sample.heeded_batch] at heeded
    obtain rfl : id = "batch" := by simpa using heeded
    exact Sample.joinedBatch_batch _
  · rintro ⟨txid, finished⟩
    obtain ⟨next, waiting⟩ := run.waits (List.append_assoc _ _ _).symm
    rw [waiting] at finished
    cases finished

/-- A client that has joined one batch sends its nonces to another. -/
theorem ceremony_not_always_isolated :
    ¬∀ (h : History BatchLib.reference) (t : Thread (interface BatchLib.reference) _),
      Evolves (settleDelegate .reference Sample.info Sample.delegate Sample.cosignerKp).run h t →
        Isolated Sample.delegate h t := by
  intro all
  obtain ⟨topics, t, run⟩ := Sample.emits_strange
  have named : namedBatches (Sample.answeringOther topics) = ["other"] := rfl
  obtain ⟨intentId, stream, opened, _, joined⟩ :=
    (all _ t run).1 "other" (named ▸ List.mem_singleton_self _)
  have first : Opened Sample.delegate (Sample.answeringOther topics) "intent" Sample.strange :=
    ⟨topics, ⟨_, rfl⟩⟩
  obtain ⟨rfl, rfl⟩ := first.unique opened
  have same := (Sample.joinedBatch_batch _).symm.trans joined
  simp at same

end Batch
end ArkadeEscrow
