import ArkadeEscrow.Batch.Order
import ArkadeEscrow.Batch.Traces

/-!
# Signing the tree

The nonces of the tree come one node at a time, in the order in which the server sends them,
and the loop signs when the map that it fills has as many entries as the tree has nodes. Until
the last missing node arrives the turns are silent, and the map holds the nodes that have
arrived (`Accumulating`). With the last one it is the map of all nodes, whatever the order was
(`BTreeMap.collect_congr`), so the signatures are the same for all orders
(`tree_signing_of_any_order`).
-/

set_option autoImplicit false

namespace ArkadeEscrow
namespace Batch

open Interaction Program Protocol

variable {L : BatchLib} {B : BitcoinLib}

variable {info : Info} {delegate : Delegate L} {cosignerKp : Keypair} {intentId : String}
variable {start s s' : State L} {turns : List (Handling L)}

/-- What a rule says of a turn holds of the state after it. -/
theorem next_of_returns {next : State L → Prop} {turn : Action L (Turn L)} {exchanged : History L}
    (rule : Turns (historian (interface L)) (.guard fun _ _ => True) (fun s' _ => next s') turn [])
    (returns : Fallible.Returns turn exchanged (.next s')) : next s' :=
  (Evolves.upholds returns trivial rule).1.2 s' rfl

/-! ## What the library promises -/

/-- The graphs have the same nodes and are signed alike. -/
structure SignsAlike (graph graph' : L.TxGraph) : Prop where
  txids : L.nodeTxids graph' = L.nodeTxids graph
  count : L.nbOfNodes graph' = L.nbOfNodes graph
  sign : ∀ txid expiry forfeitPk cosignerKp aggNoncePk commitTx nonceTree,
    L.signBatchTreeTx txid expiry forfeitPk cosignerKp aggNoncePk graph' commitTx nonceTree =
      L.signBatchTreeTx txid expiry forfeitPk cosignerKp aggNoncePk graph commitTx nonceTree

/-- The txids of a tree are the keys of a map, a signature can be recorded and changes nothing
that is signed, and `sign_batch_tree_tx` signs one node and uses up its nonce. -/
structure TreeLaws (L : BatchLib) (B : BitcoinLib) : Prop where
  nodes : HasNodes L
  distinct : ∀ chunks graph, L.newTxGraph chunks = .ok graph → (L.nodeTxids graph).Nodup
  count : ∀ chunks graph, L.newTxGraph chunks = .ok graph →
    L.nbOfNodes graph = (L.nodeTxids graph).length
  records : ∀ (graph : L.TxGraph) txid signature, ∃ graph',
    recordSignature B graph txid signature = .ok graph' ∧ SignsAlike graph graph'
  consumes : ConsumesNonces L
  signsOne : ∀ txid expiry forfeitPk cosignerKp aggNoncePk graph commitTx (nonceTree : L.NonceKps)
    partialSigs (nonceTree' : L.NonceKps),
    L.signBatchTreeTx txid expiry forfeitPk cosignerKp aggNoncePk graph commitTx nonceTree =
      .ok (partialSigs, nonceTree') →
    ∃ sig, partialSigs = (∅ : PartialSigTree L).insert txid sig

theorem SignsAlike.refl (graph : L.TxGraph) : SignsAlike graph graph :=
  ⟨rfl, rfl, fun _ _ _ _ _ _ _ => rfl⟩

theorem SignsAlike.trans {graph graph' graph'' : L.TxGraph} (first : SignsAlike graph graph')
    (second : SignsAlike graph' graph'') : SignsAlike graph graph'' where
  txids := second.txids.trans first.txids
  count := second.count.trans first.count
  sign _ _ _ _ _ _ _ := (second.sign _ _ _ _ _ _ _).trans (first.sign _ _ _ _ _ _ _)

theorem TreeLaws.keeps (laws : TreeLaws L B) : KeepsNodes L B := by
  intro graph graph' txid signature recorded
  obtain ⟨graph'', recorded', alike⟩ := laws.records graph txid signature
  obtain rfl : graph' = graph'' := Except.ok.inj (recorded.symm.trans recorded')
  exact ⟨alike.txids, alike.count⟩

section SignNodes

variable {forfeitPk : XOnlyPublicKey} {expiry : UInt32} {commitTx : Psbt}
  {graph graph' : L.TxGraph} {aggNoncePks : BTreeMap Txid L.AggregatedNonce} {txids : List Txid}
  {progress progress' : PartialSigTree L × L.NonceKps}

theorem SignsAlike.signNodes (alike : SignsAlike graph graph') :
    signNodes forfeitPk cosignerKp expiry commitTx graph' aggNoncePks txids progress =
      signNodes forfeitPk cosignerKp expiry commitTx graph aggNoncePks txids progress := by
  induction txids generalizing progress with
  | nil => rfl
  | cons txid txids ih =>
      rw [Batch.signNodes, Batch.signNodes]
      simp only [alike.sign, ih]

/-- **One signature for each node, made with the aggregated nonce of that node.** -/
theorem signature_of_signNodes (laws : TreeLaws L B) (distinct : txids.Nodup)
    (signed : signNodes forfeitPk cosignerKp expiry commitTx graph aggNoncePks txids progress =
      .ok progress') (txid : Txid) :
    (txid ∉ txids → progress'.1[txid]? = progress.1[txid]?) ∧
    (txid ∈ txids → ∃ aggNoncePk nonceTree nonceTree' sig, aggNoncePks[txid]? = some aggNoncePk ∧
      L.signBatchTreeTx txid expiry forfeitPk cosignerKp aggNoncePk graph commitTx nonceTree =
        .ok ((∅ : PartialSigTree L).insert txid sig, nonceTree') ∧
      progress'.1[txid]? = some sig) := by
  induction txids generalizing progress with
  | nil =>
      cases signed
      exact ⟨fun _ => rfl, nofun⟩
  | cons first txids ih =>
      obtain ⟨absent, distinct⟩ := List.nodup_cons.mp distinct
      obtain ⟨aggNoncePk, known, signed⟩ := Results.bind_eq_ok_iff.mp signed
      obtain ⟨⟨sigs, nonceTree'⟩, node, signed⟩ := Results.bind_eq_ok_iff.mp signed
      replace node := printed_eq_ok_iff.mp node
      obtain ⟨sig, rfl⟩ := laws.signsOne _ _ _ _ _ _ _ _ _ _ node
      obtain ⟨others, here⟩ := ih distinct signed
      constructor
      · intro other
        rw [others fun member => other (List.mem_cons_of_mem _ member)]
        have ne : first ≠ txid := fun same => other (same ▸ List.mem_cons_self)
        simp [Std.ExtTreeMap.getElem?_union, ne]
      · intro member
        rcases List.mem_cons.mp member with rfl | member
        · refine ⟨aggNoncePk, progress.2, nonceTree', sig, orError_eq_ok_iff.mp known, node, ?_⟩
          rw [others absent, Std.ExtTreeMap.getElem?_union]
          simp
        · exact here member

end SignNodes

/-! ## From the start of the signing to the last missing node -/

/-- The loop is about to sign this tree. -/
structure Ready (graph : L.TxGraph) (nonceTree : L.NonceKps) (commitTx : Psbt) (expiry : UInt32)
    (s : State L) : Prop where
  built : ∃ chunks, L.newTxGraph chunks = .ok graph
  step : s.step = .batchSigningStarted
  graph : s.vtxoGraph = some graph
  nonceTree : s.ourNonceTrees = some nonceTree
  commitTx : s.unsignedCommitmentTx = some commitTx
  expiry : s.batchExpiry = some expiry
  nonces : s.aggNoncePks = ∅

/-- The loop has just answered `TreeSigningStarted`. -/
def SigningStarted (B : BitcoinLib) (info : Info) (delegate : Delegate L) (cosignerKp : Keypair)
    (intentId : String) (turns : List (Handling L)) (s : State L) : Prop :=
  ∃ earlier s₀ id cosignersPubkeys commitTx exchanged,
    Turned B info delegate cosignerKp intentId (.initial L) earlier s₀ ∧
    s₀.step = .batchStarted ∧
    Fallible.Returns (onTreeSigningStarted cosignerKp s₀ id cosignersPubkeys commitTx) exchanged
      (.next s) ∧
    turns = earlier ++ [⟨.treeSigningStarted id cosignersPubkeys commitTx, exchanged⟩]

theorem SigningStarted.turned
    (started : SigningStarted B info delegate cosignerKp intentId turns s) :
    Turned B info delegate cosignerKp intentId (.initial L) turns s := by
  obtain ⟨earlier, s₀, id, cosignersPubkeys, commitTx, exchanged, turned, _, returns, rfl⟩ :=
    started
  exact turned.turn returns

/-- Before the signing starts there are no aggregated nonces, and in a batch its expiry is
known. -/
structure Prepared (s : State L) : Prop where
  nonces : s.step ≠ .batchSigningStarted → s.step ≠ .finalized → s.aggNoncePks = ∅
  expiry : s.step ≠ .start → ∃ expiry, s.batchExpiry = some expiry

theorem Prepared.upheld (prepared : Prepared s) {event : StreamEvent L} :
    Turns (historian (interface L)) (.guard fun _ _ => True) (fun s' _ => Prepared s')
      (onEvent B info delegate cosignerKp intentId s event) [] := by
  obtain ⟨nonces, expiry⟩ := prepared
  cases event with
  | batchStarted id intentIdHashes batchExpiry =>
      refine turns_onBatchStarted (fun _ => ⟨nonces, expiry⟩) fun step _ => ?_
      refine permits_historian trivial fun answer _ => ⟨fun _ _ => ?_, fun _ => ⟨_, rfl⟩⟩
      exact nonces (by simp [step]) (by simp [step])
  | treeTx kind chunk =>
      exact turns_onTreeTx (fun _ => ⟨nonces, expiry⟩) (fun _ _ _ _ => ⟨nonces, expiry⟩)
        fun _ _ _ _ => ⟨nonces, expiry⟩
  | treeSignature kind txid signature =>
      exact turns_onTreeSignature ⟨nonces, expiry⟩ fun _ _ _ _ _ => ⟨nonces, expiry⟩
  | treeSigningStarted id cosignersPubkeys commitTx =>
      refine turns_onTreeSigningStarted (fun _ => ⟨nonces, expiry⟩) ?_
      intro step chunks graph _ _ _
      refine permits_historian trivial fun entropy nonceTree _ => ?_
      refine permits_historian trivial fun answer _ => ⟨fun other => absurd rfl other, fun _ => ?_⟩
      exact expiry (by simp [step])
  | treeNonces id txid collected =>
      refine turns_onTreeNonces (fun _ => ⟨nonces, expiry⟩) ?_ ?_
      · exact fun step _ _ _ _ _ _ => ⟨fun other => absurd step other, expiry⟩
      · intro step _ graph aggNoncePks nonceTree commitTx expiry' partialSigs nonceTree'
          _ _ _ _ _ _ _
        refine permits_historian trivial fun answer _ => ?_
        exact ⟨fun other => absurd step other, expiry⟩
  | batchFinalization =>
      refine turns_onBatchFinalization (fun _ => ⟨nonces, expiry⟩) ?_ ?_
      · exact fun step _ => ⟨fun _ other => absurd rfl other, fun _ => expiry (by simp [step])⟩
      · intro step chunks connectors signedForfeits _ _ _ _
        refine permits_historian trivial fun answer _ => ?_
        exact ⟨fun _ other => absurd rfl other, fun _ => expiry (by simp [step])⟩
  | batchFinalized id commitmentTxid =>
      rw [onEvent, onBatchFinalized]
      split
      · exact turns_next.mpr ⟨nonces, expiry⟩
      · rintro s' ⟨⟩
  | batchFailed id reason => exact turns_onBatchFailed fun _ => ⟨nonces, expiry⟩
  | streamStarted => exact turns_next.mpr ⟨nonces, expiry⟩
  | treeNoncesAggregated => exact turns_next.mpr ⟨nonces, expiry⟩
  | heartbeat => exact turns_next.mpr ⟨nonces, expiry⟩

theorem Turned.prepared (turned : Turned B info delegate cosignerKp intentId (.initial L) turns s) :
    Prepared s := by
  induction turned with
  | nil => exact ⟨fun _ _ => rfl, fun other => absurd rfl other⟩
  | turn _ handles ih => exact next_of_returns ih.upheld handles

/-- **Once the signing has started, the loop is ready to sign the tree.** -/
theorem SigningStarted.ready
    (started : SigningStarted B info delegate cosignerKp intentId turns s) :
    ∃ graph nonceTree commitTx expiry, Ready graph nonceTree commitTx expiry s := by
  obtain ⟨earlier, s₀, id, cosignersPubkeys, commitTx, exchanged, turned, step, returns, -⟩ :=
    started
  obtain ⟨nonces, expires⟩ := turned.prepared
  obtain ⟨expiry, known⟩ := expires (by simp [step])
  have rule : Turns (historian (interface L)) (.guard fun _ _ => True)
      (fun s _ => ∃ graph nonceTree commitTx expiry, Ready graph nonceTree commitTx expiry s)
      (onTreeSigningStarted cosignerKp s₀ id cosignersPubkeys commitTx) [] := by
    refine turns_onTreeSigningStarted (fun other => absurd step other) ?_
    intro _ chunks graph _ built _
    refine permits_historian trivial fun entropy nonceTree _ => ?_
    refine permits_historian trivial fun answer _ => ?_
    exact ⟨graph, nonceTree, commitTx, expiry, ⟨chunks, built⟩, rfl, rfl, rfl, rfl, known,
      nonces (by simp [step]) (by simp [step])⟩
  exact next_of_returns rule returns

/-! ## The nonces of the nodes -/

/-- The aggregated nonces of these nodes. -/
def aggregated (noncesOf : Txid → BTreeMap XOnlyPublicKey L.PublicNonce) (txids : List Txid) :
    BTreeMap Txid L.AggregatedNonce :=
  BTreeMap.collect (fun txid => L.aggregateNonces (noncesOf txid)) txids

/-- What may arrive until the nonces of all nodes have: heartbeats, signatures on the tree,
nonces without the own one, and the nonces of the nodes. -/
def Interleaved (own : XOnlyPublicKey) (nodes : List Txid)
    (noncesOf : Txid → BTreeMap XOnlyPublicKey L.PublicNonce) : StreamEvent L → Prop
  | .heartbeat => True
  | .treeSignature .. => True
  | .treeNonces _ txid nonces => own ∉ nonces ∨ txid ∈ nodes ∧ nonces = noncesOf txid
  | _ => False

/-- The nodes whose nonces have arrived, the own ones among them. -/
def arrived (own : XOnlyPublicKey) (events : List (StreamEvent L)) : List Txid :=
  events.filterMap fun event => noncedTxid? own (.ok event)

/-- With these events the nonces of all nodes but `last` have arrived. -/
structure AllBut (own : XOnlyPublicKey) (nodes : List Txid)
    (noncesOf : Txid → BTreeMap XOnlyPublicKey L.PublicNonce) (last : Txid)
    (events : List (StreamEvent L)) : Prop where
  interleaved : ∀ event ∈ events, Interleaved own nodes noncesOf event
  node : last ∈ nodes
  missing : last ∉ arrived own events
  others : ∀ txid ∈ nodes, txid ≠ last → txid ∈ arrived own events

variable {graph : L.TxGraph} {nonceTree : L.NonceKps} {commitTx : Psbt} {expiry : UInt32}
  {noncesOf : Txid → BTreeMap XOnlyPublicKey L.PublicNonce} {own : XOnlyPublicKey} {last : Txid}
  {seen nodes : List Txid}

/-- The loop is signing this tree and has the nonces of these nodes. -/
structure Accumulating (graph : L.TxGraph) (nonceTree : L.NonceKps) (commitTx : Psbt)
    (expiry : UInt32) (noncesOf : Txid → BTreeMap XOnlyPublicKey L.PublicNonce)
    (seen : List Txid) (s : State L) : Prop where
  step : s.step = .batchSigningStarted
  graph : ∃ graph', s.vtxoGraph = some graph' ∧ SignsAlike graph graph'
  nonceTree : s.ourNonceTrees = some nonceTree
  commitTx : s.unsignedCommitmentTx = some commitTx
  expiry : s.batchExpiry = some expiry
  nonces : s.aggNoncePks = aggregated noncesOf seen

theorem Ready.accumulating (ready : Ready graph nonceTree commitTx expiry s) :
    Accumulating graph nonceTree commitTx expiry noncesOf [] s :=
  ⟨ready.step, ⟨graph, ready.graph, .refl graph⟩, ready.nonceTree, ready.commitTx, ready.expiry,
    ready.nonces⟩

theorem arrived_cons_own {id : String} {txid : Txid} {events : List (StreamEvent L)}
    {nonces : BTreeMap XOnlyPublicKey L.PublicNonce} (member : own ∈ nonces) :
    arrived own (.treeNonces id txid nonces :: events) = txid :: arrived own events := by
  simp [arrived, noncedTxid?, member]

theorem arrived_cons_of_none {event : StreamEvent L} {events : List (StreamEvent L)}
    (other : noncedTxid? own (.ok event) = none) :
    arrived own (event :: events) = arrived own events := by
  simp [arrived, other]

theorem noncedTxid?_foreign {id : String} {txid : Txid}
    {nonces : BTreeMap XOnlyPublicKey L.PublicNonce} (absent : own ∉ nonces) :
    noncedTxid? own (.ok (.treeNonces id txid nonces) : StreamItem L) = none :=
  if_neg absent

/-- As long as a node is missing, there are fewer nonces than nodes. -/
theorem card_ne_of_missing (within : ∀ txid ∈ seen, txid ∈ nodes) (node : last ∈ nodes)
    (missing : last ∉ seen) (distinct : nodes.Nodup) : seen.toFinset.card ≠ nodes.length := by
  rw [← List.toFinset_card_of_nodup distinct]
  apply ne_of_lt
  apply Finset.card_lt_card
  rw [Finset.ssubset_iff_of_subset fun txid member =>
    by simpa using within txid (by simpa using member)]
  exact ⟨last, by simpa using node, by simpa using missing⟩

theorem aggregated_eq_of_same (same : ∀ txid, txid ∈ seen ↔ txid ∈ nodes) :
    aggregated noncesOf seen = aggregated noncesOf nodes :=
  BTreeMap.collect_congr same

theorem interleaved_within {events : List (StreamEvent L)}
    (interleaved : ∀ event ∈ events, Interleaved own nodes noncesOf event) :
    ∀ txid ∈ arrived own events, txid ∈ nodes := by
  intro txid member
  obtain ⟨event, source, nonced⟩ := List.mem_filterMap.mp member
  cases event with
  | treeNonces id txid' nonces =>
      simp only [noncedTxid?, Option.ite_none_right_eq_some, Option.some.injEq] at nonced
      obtain ⟨here, rfl⟩ := nonced
      rcases interleaved _ source with other | ⟨node, -⟩
      · exact absurd here other
      · exact node
  | _ => cases nonced

namespace Accumulating

/-- **Until the last missing node arrives, the turns are silent**, and the map holds the nodes
that have arrived. -/
theorem silent (laws : TreeLaws L B) (distinct : (L.nodeTxids graph).Nodup)
    (count : L.nbOfNodes graph = (L.nodeTxids graph).length)
    (accumulating : Accumulating graph nonceTree commitTx expiry noncesOf seen s)
    {event : StreamEvent L}
    (interleaved : Interleaved cosignerKp.publicKey.xOnly (L.nodeTxids graph) noncesOf event)
    (within : ∀ txid ∈ seen ++ arrived cosignerKp.publicKey.xOnly [event], txid ∈ L.nodeTxids graph)
    (node : last ∈ L.nodeTxids graph)
    (missing : last ∉ seen ++ arrived cosignerKp.publicKey.xOnly [event]) :
    ∃ s', Fallible.Returns (onEvent B info delegate cosignerKp intentId s event) [] (.next s') ∧
      Accumulating graph nonceTree commitTx expiry noncesOf
        (seen ++ arrived cosignerKp.publicKey.xOnly [event]) s' := by
  cases event with
  | heartbeat =>
      rw [arrived_cons_of_none rfl, arrived, List.filterMap_nil, List.append_nil]
      exact ⟨s, returns_next, accumulating⟩
  | treeSignature kind txid signature =>
      rw [arrived_cons_of_none rfl, arrived, List.filterMap_nil, List.append_nil]
      cases kind with
      | connector =>
          refine ⟨s, ?_, accumulating⟩
          rw [onEvent, onTreeSignature, if_neg (not_not.mpr accumulating.step)]
          exact returns_next
      | vtxo =>
          obtain ⟨graph', present, alike⟩ := accumulating.graph
          obtain ⟨graph'', recorded, alike'⟩ := laws.records graph' txid signature
          exact ⟨_, returns_onTreeSignature_vtxo accumulating.step present recorded,
            { accumulating with graph := ⟨graph'', rfl, alike.trans alike'⟩ }⟩
  | treeNonces id txid nonces =>
      by_cases here : cosignerKp.publicKey.xOnly ∈ nonces
      · rw [arrived_cons_own here, arrived, List.filterMap_nil] at within missing ⊢
        obtain ⟨-, rfl⟩ := interleaved.resolve_left (not_not.mpr here)
        obtain ⟨graph', present, alike⟩ := accumulating.graph
        have inserted : s.aggNoncePks.insert txid (L.aggregateNonces (noncesOf txid)) =
            aggregated noncesOf (seen ++ [txid]) := by
          rw [accumulating.nonces, aggregated, aggregated, BTreeMap.collect_append_singleton]
        have incomplete : (s.aggNoncePks.insert txid (L.aggregateNonces (noncesOf txid))).size ≠
            L.nbOfNodes graph' := by
          rw [inserted, aggregated, BTreeMap.size_collect, alike.count, count]
          exact card_ne_of_missing within node missing distinct
        exact ⟨_, returns_onTreeNonces_early accumulating.step here present incomplete,
          { accumulating with nonces := inserted }⟩
      · rw [arrived_cons_of_none (noncedTxid?_foreign here), arrived, List.filterMap_nil,
          List.append_nil]
        exact ⟨s, returns_onTreeNonces_foreign accumulating.step here, accumulating⟩
  | _ => cases interleaved

/-- The turns over all of these events. The induction is on the events that are left. -/
theorem run (laws : TreeLaws L B) (distinct : (L.nodeTxids graph).Nodup)
    (count : L.nbOfNodes graph = (L.nodeTxids graph).length)
    (accumulating : Accumulating graph nonceTree commitTx expiry noncesOf seen s)
    (turned : Turned B info delegate cosignerKp intentId start turns s)
    {events : List (StreamEvent L)}
    (interleaved : ∀ event ∈ events,
      Interleaved cosignerKp.publicKey.xOnly (L.nodeTxids graph) noncesOf event)
    (within : ∀ txid ∈ seen, txid ∈ L.nodeTxids graph) (node : last ∈ L.nodeTxids graph)
    (missing : last ∉ seen ++ arrived cosignerKp.publicKey.xOnly events) :
    ∃ s', Turned B info delegate cosignerKp intentId start
        (turns ++ events.map fun event => ⟨event, []⟩) s' ∧
      Accumulating graph nonceTree commitTx expiry noncesOf
        (seen ++ arrived cosignerKp.publicKey.xOnly events) s' := by
  induction events generalizing turns seen s with
  | nil =>
      rw [List.map_nil, List.append_nil, arrived, List.filterMap_nil, List.append_nil]
      exact ⟨s, turned, accumulating⟩
  | cons event events ih =>
      obtain ⟨here, interleaved⟩ := List.forall_mem_cons.mp interleaved
      have both : seen ++ arrived cosignerKp.publicKey.xOnly (event :: events) =
          (seen ++ arrived cosignerKp.publicKey.xOnly [event]) ++
            arrived cosignerKp.publicKey.xOnly events := by
        rw [List.append_assoc, arrived, arrived, arrived, ← List.filterMap_append,
          List.singleton_append]
      have within' : ∀ txid ∈ seen ++ arrived cosignerKp.publicKey.xOnly [event],
          txid ∈ L.nodeTxids graph := by
        intro txid member
        rcases List.mem_append.mp member with member | member
        · exact within txid member
        · exact interleaved_within (List.forall_mem_singleton.mpr here) txid member
      rw [both] at missing ⊢
      obtain ⟨s₁, returns, accumulating₁⟩ : ∃ s₁,
          Fallible.Returns (onEvent B info delegate cosignerKp intentId s event) [] (.next s₁) ∧
          Accumulating graph nonceTree commitTx expiry noncesOf
            (seen ++ arrived cosignerKp.publicKey.xOnly [event]) s₁ :=
        accumulating.silent laws distinct count here within' node
          fun member => missing (List.mem_append_left _ member)
      have turned₁ : Turned B info delegate cosignerKp intentId start (turns ++ [⟨event, []⟩]) s₁ :=
        turned.turn returns
      obtain ⟨s', turned', accumulating'⟩ := ih accumulating₁ turned₁ interleaved within' missing
      rw [List.append_assoc] at turned'
      exact ⟨s', turned', accumulating'⟩

end Accumulating

theorem check_bind_of_ok {α β : Type} {r : Except Error α} {a : α} {f : α → Action L β}
    (ok : r = .ok a) : (check L r >>= f) = f a := by
  subst ok
  rfl

/-- **With the last missing node the tree is signed**, from the nonces of all nodes. -/
theorem Accumulating.submits
    (count : L.nbOfNodes graph = (L.nodeTxids graph).length)
    (distinct : (L.nodeTxids graph).Nodup)
    (accumulating : Accumulating graph nonceTree commitTx expiry noncesOf seen s)
    (complete : ∀ txid, txid ∈ seen ++ [last] ↔ txid ∈ L.nodeTxids graph)
    (own : cosignerKp.publicKey.xOnly ∈ noncesOf last) {partialSigs : PartialSigTree L}
    {nonceTree' : L.NonceKps}
    (signable : signNodes info.forfeitPk.xOnly cosignerKp expiry commitTx graph
      (aggregated noncesOf (L.nodeTxids graph)) (L.nodeTxids graph) (∅, nonceTree) =
        .ok (partialSigs, nonceTree')) (id : String) :
    ∃ next, (onEvent B info delegate cosignerKp intentId s
        (.treeNonces id last (noncesOf last))).run =
      .ask (I := interface L) (.submitTreeSignatures id cosignerKp.publicKey partialSigs) next := by
  obtain ⟨graph', present, alike⟩ := accumulating.graph
  have inserted : s.aggNoncePks.insert last (L.aggregateNonces (noncesOf last)) =
      aggregated noncesOf (L.nodeTxids graph) := by
    rw [accumulating.nonces, ← aggregated_eq_of_same complete, aggregated, aggregated,
      BTreeMap.collect_append_singleton]
  have size : (s.aggNoncePks.insert last (L.aggregateNonces (noncesOf last))).size =
      L.nbOfNodes graph' := by
    rw [inserted, aggregated, BTreeMap.size_collect, alike.count, count,
      List.toFinset_card_of_nodup distinct]
  have signed : signNodes info.forfeitPk.xOnly cosignerKp expiry commitTx graph'
      (s.aggNoncePks.insert last (L.aggregateNonces (noncesOf last))) (L.nodeTxids graph')
      (∅, nonceTree) = .ok (partialSigs, nonceTree') := by
    rw [inserted, alike.txids, alike.signNodes]
    exact signable
  rw [onEvent, onTreeNonces, if_neg (not_not.mpr accumulating.step),
    if_pos (Std.ExtTreeMap.contains_iff_mem.mpr own)]
  dsimp only
  rw [check_bind_of_ok (orError_eq_ok_iff.mpr present), if_pos size,
    check_bind_of_ok (orError_eq_ok_iff.mpr accumulating.nonceTree),
    check_bind_of_ok (orError_eq_ok_iff.mpr accumulating.commitTx),
    check_bind_of_ok (orError_eq_ok_iff.mpr accumulating.expiry), check_bind_of_ok signed]
  exact ⟨_, rfl⟩

/-- A ceremony that submits signatures has not done so before, and does not do so again. -/
theorem signatures_once (laws : TreeLaws L B) {before after : History L} {id : String}
    {pk : PublicKey} {partialSigs : PartialSigTree L}
    (run : Emits (settleDelegate B info delegate cosignerKp).run
      (before ++ .sent (.submitTreeSignatures id pk partialSigs) :: after))
    (batchId : String) (other : PublicKey) (sigs : PartialSigTree L) :
    .sent (.submitTreeSignatures batchId other sigs) ∉ before ++ after := by
  have follows : Guarded (Follows delegate) _ :=
    run.guarded (D := .guard (Follows delegate)) trivial
    (settleDelegate_follows laws.consumes laws.nodes laws.keeps).safe
  rw [List.mem_append]
  rintro (earlier | later)
  · exact (inOrder_of_follows (follows before _ after rfl)).1 _ _ _ earlier
  · obtain ⟨between, rest, rfl⟩ := List.append_of_mem later
    have again := follows (before ++ .sent (.submitTreeSignatures id pk partialSigs) :: between)
      (.submitTreeSignatures batchId other sigs) rest (by simp)
    exact (inOrder_of_follows again).1 id pk partialSigs (by simp)

/-- The client submits these signatures in answer to the last event, and not before, and it
submits no others in the whole ceremony. -/
structure SubmitsOnce (B : BitcoinLib) (info : Info) (delegate : Delegate L) (cosignerKp : Keypair)
    (intentId : String) (turns : List (Handling L)) (events : List (StreamEvent L)) (id : String)
    (last : Txid) (nonces : BTreeMap XOnlyPublicKey L.PublicNonce)
    (partialSigs : PartialSigTree L) : Prop where
  turn : ∃ s next, Turned B info delegate cosignerKp intentId (.initial L)
      (turns ++ events.map fun event => ⟨event, []⟩) s ∧
    (onEvent B info delegate cosignerKp intentId s (.treeNonces id last nonces)).run =
      .ask (I := interface L) (.submitTreeSignatures id cosignerKp.publicKey partialSigs) next
  once : ∃ topics, ∀ rest whole h, whole = turns.map (fun handling => .ok handling.event) ++
      (events.map .ok ++ .ok (.treeNonces id last nonces) :: rest) →
    h = preamble delegate intentId topics whole ++ shown turns →
    (∃ next, Evolves (settleDelegate B info delegate cosignerKp).run h (.running
      (.ask (.submitTreeSignatures id cosignerKp.publicKey partialSigs) next))) ∧
    ∀ after, Emits (settleDelegate B info delegate cosignerKp).run
        (h ++ .sent (.submitTreeSignatures id cosignerKp.publicKey partialSigs) :: after) →
      ∀ batchId other sigs, .sent (.submitTreeSignatures batchId other sigs) ∉ h ++ after

/-- **The order of the nonces does not matter.** In whatever order the nonces of the nodes of a
tree arrive, and whatever is repeated or comes in between until the last missing node, the
client submits its signatures once, in answer to that last node. There is one signature for
each node, made with the aggregated nonce of that node, and they are the same for all orders. -/
theorem tree_signing_of_any_order (laws : TreeLaws L B)
    (passes : PassesLocalChecks delegate cosignerKp)
    (started : SigningStarted B info delegate cosignerKp intentId turns s)
    (ready : Ready graph nonceTree commitTx expiry s)
    (own : ∀ txid ∈ L.nodeTxids graph, cosignerKp.publicKey.xOnly ∈ noncesOf txid)
    {partialSigs : PartialSigTree L} {nonceTree' : L.NonceKps}
    (signable : signNodes info.forfeitPk.xOnly cosignerKp expiry commitTx graph
      (aggregated noncesOf (L.nodeTxids graph)) (L.nodeTxids graph) (∅, nonceTree) =
        .ok (partialSigs, nonceTree')) :
    (∀ txid, txid ∈ partialSigs ↔ txid ∈ L.nodeTxids graph) ∧
    (∀ txid ∈ L.nodeTxids graph, ∃ left left' sig,
      L.signBatchTreeTx txid expiry info.forfeitPk.xOnly cosignerKp
          (L.aggregateNonces (noncesOf txid)) graph commitTx left =
        .ok ((∅ : PartialSigTree L).insert txid sig, left') ∧
      partialSigs[txid]? = some sig) ∧
    ∀ events id last,
      AllBut cosignerKp.publicKey.xOnly (L.nodeTxids graph) noncesOf last events →
      SubmitsOnce B info delegate cosignerKp intentId turns events id last (noncesOf last)
        partialSigs := by
  obtain ⟨chunks, built⟩ := ready.built
  have distinct := laws.distinct chunks graph built
  have count := laws.count chunks graph built
  have signature := signature_of_signNodes laws distinct signable
  refine ⟨fun txid => ⟨fun member => ?_, fun member => ?_⟩, fun txid member => ?_, ?_⟩
  · by_contra absent
    rw [Std.ExtTreeMap.mem_iff_isSome_getElem?, (signature txid).1 absent] at member
    simp at member
  · obtain ⟨_, _, _, sig, _, _, here⟩ := (signature txid).2 member
    exact Std.ExtTreeMap.mem_iff_isSome_getElem?.mpr (by rw [here]; rfl)
  · obtain ⟨aggNoncePk, left, left', sig, known, signed, here⟩ := (signature txid).2 member
    rw [aggregated, BTreeMap.getElem?_collect, if_pos member] at known
    obtain rfl := Option.some.inj known
    exact ⟨left, left', sig, signed, here⟩
  · intro events id last allBut
    obtain ⟨s', turned, accumulating⟩ := ready.accumulating.run laws distinct count started.turned
      allBut.interleaved nofun allBut.node allBut.missing
    have complete : ∀ txid, txid ∈ arrived cosignerKp.publicKey.xOnly events ++ [last] ↔
        txid ∈ L.nodeTxids graph := by
      intro txid
      rw [List.mem_append, List.mem_singleton]
      constructor
      · rintro (member | rfl)
        · exact interleaved_within allBut.interleaved txid member
        · exact allBut.node
      · intro member
        by_cases same : txid = last
        · exact .inr same
        · exact .inl (allBut.others txid member same)
    obtain ⟨next, turn⟩ := accumulating.submits count distinct complete (own last allBut.node)
      signable id
    refine ⟨⟨s', next, turned, turn⟩, ?_⟩
    obtain ⟨outpoints, inputs⟩ := passes.2
    obtain ⟨topics, opens⟩ := evolves_settleDelegate passes.1 inputs
    refine ⟨topics, ?_⟩
    rintro rest whole h rfl rfl
    have silent :
        shown (turns ++ events.map fun event => (⟨event, []⟩ : Handling L)) = shown turns := by
      simp [shown]
    refine ⟨?_, fun after emits => signatures_once laws emits⟩
    have runs := turned.evolves (.ok (.treeNonces id last (noncesOf last)) :: rest)
    rw [silent, eventLoop, ExceptT.run_bind, turn, List.map_append, List.map_map,
      List.append_assoc] at runs
    exact ⟨_, (opens intentId _).trans runs⟩

/-! ## A tree with two nodes -/

theorem treeLaws_forest : TreeLaws BatchLib.forest .reference where
  nodes := hasNodes_forest
  distinct chunks graph built := by
    obtain ⟨rfl, -, distinct⟩ := newTxGraph_forest_eq_ok_iff.mp built
    exact distinct
  count _ graph _ := (@List.length_map _ _ graph txidOf).symm
  records graph txid signature := ⟨graph, recordSignature_forest graph txid signature, .refl _⟩
  consumes := consumesNonces_forest
  signsOne txid _ _ _ aggNoncePk _ _ nonces sigs left signed := by
    obtain ⟨-, rfl, -⟩ := takeNonce_eq_ok_iff.mp signed
    exact ⟨aggNoncePk, rfl⟩

theorem signingStarted_forest : SigningStarted .reference Forest.info Forest.delegate
    Forest.cosignerKp "intent" (Forest.collecting ++ [Forest.signingStarted]) Forest.signingState :=
  ⟨Forest.collecting, Forest.collected, _, _, _, _, Forest.turned_collecting, rfl,
    Forest.returns_signingStarted, rfl⟩

theorem arrived_noncesEvent (txid : Txid) (events : List (StreamEvent BatchLib.forest)) :
    arrived Forest.cosignerKp.publicKey.xOnly (Forest.noncesEvent txid :: events) =
      txid :: arrived Forest.cosignerKp.publicKey.xOnly events :=
  arrived_cons_own (Forest.own_mem_noncesOf txid)

theorem own_not_mem_empty :
    Forest.cosignerKp.publicKey.xOnly ∉ (∅ : BTreeMap XOnlyPublicKey Nat) :=
  Std.ExtTreeMap.not_mem_empty

theorem noncedTxid?_forest_foreign :
    noncedTxid? Forest.cosignerKp.publicKey.xOnly (.ok Forest.foreign) = none :=
  noncedTxid?_foreign own_not_mem_empty

theorem arrived_rootLast : arrived Forest.cosignerKp.publicKey.xOnly Forest.rootLast =
    [txidOf Forest.child, txidOf Forest.child] := by
  rw [Forest.rootLast, arrived_noncesEvent, arrived_cons_of_none rfl,
    arrived_cons_of_none noncedTxid?_forest_foreign, arrived_noncesEvent]
  rfl

theorem interleaved_noncesEvent {txid : Txid}
    (node : txid ∈ BatchLib.forest.nodeTxids Forest.tree) :
    Interleaved Forest.cosignerKp.publicKey.xOnly (BatchLib.forest.nodeTxids Forest.tree)
      Forest.noncesOf (Forest.noncesEvent txid) :=
  .inr ⟨node, rfl⟩

theorem allBut_child : AllBut Forest.cosignerKp.publicKey.xOnly
    (BatchLib.forest.nodeTxids Forest.tree) Forest.noncesOf (txidOf Forest.child)
    [Forest.noncesEvent (txidOf Forest.root)] := by
  have arrives : arrived Forest.cosignerKp.publicKey.xOnly
      [Forest.noncesEvent (txidOf Forest.root)] = [txidOf Forest.root] :=
    arrived_noncesEvent _ []
  refine ⟨?_, .tail _ (.head _), ?_, ?_⟩
  · exact List.forall_mem_singleton.mpr (interleaved_noncesEvent (.head _))
  · rw [arrives, List.mem_singleton]
    exact Ne.symm Forest.txidOf_ne
  · intro txid member other
    rw [arrives, List.mem_singleton]
    rcases List.mem_pair.mp member with here | here
    · exact here
    · exact absurd here other

theorem allBut_root : AllBut Forest.cosignerKp.publicKey.xOnly
    (BatchLib.forest.nodeTxids Forest.tree) Forest.noncesOf (txidOf Forest.root)
    Forest.rootLast := by
  have child : txidOf Forest.child ∈ BatchLib.forest.nodeTxids Forest.tree := .tail _ (.head _)
  refine ⟨?_, .head _, ?_, ?_⟩
  · refine List.forall_mem_cons.mpr ⟨interleaved_noncesEvent child, ?_⟩
    refine List.forall_mem_cons.mpr ⟨trivial, ?_⟩
    refine List.forall_mem_cons.mpr ⟨.inl own_not_mem_empty, ?_⟩
    exact List.forall_mem_singleton.mpr (interleaved_noncesEvent child)
  · rw [arrived_rootLast]
    simpa using Forest.txidOf_ne
  · intro txid member other
    rw [arrived_rootLast]
    rcases List.mem_pair.mp member with here | here
    · exact absurd here other
    · simp [here]

/-- In the order of the tree or with the root last, the signatures are the same. -/
theorem tree_signing_of_any_order_sample :
    SubmitsOnce .reference Forest.info Forest.delegate Forest.cosignerKp "intent"
      (Forest.collecting ++ [Forest.signingStarted]) [Forest.noncesEvent (txidOf Forest.root)]
      "batch" (txidOf Forest.child) (Forest.noncesOf (txidOf Forest.child)) Forest.signatures ∧
    SubmitsOnce .reference Forest.info Forest.delegate Forest.cosignerKp "intent"
      (Forest.collecting ++ [Forest.signingStarted]) Forest.rootLast
      "batch" (txidOf Forest.root) (Forest.noncesOf (txidOf Forest.root)) Forest.signatures := by
  have ready : @Ready BatchLib.forest Forest.tree [txidOf Forest.root, txidOf Forest.child]
      Forest.commitmentTx 144 Forest.signingState :=
    ⟨⟨Forest.tree, Forest.newTxGraph_tree⟩, rfl, rfl, rfl, rfl, rfl, rfl⟩
  obtain ⟨-, -, submits⟩ := tree_signing_of_any_order treeLaws_forest ⟨rfl, _, rfl⟩
    signingStarted_forest ready (fun txid _ => Forest.own_mem_noncesOf txid) Forest.signNodes_tree
  exact ⟨submits _ _ _ allBut_child, submits _ _ _ allBut_root⟩

end Batch
end ArkadeEscrow
