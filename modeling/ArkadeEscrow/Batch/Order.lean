import ArkadeEscrow.Batch.Forest
import ArkadeEscrow.Batch.Forfeits

/-!
# The order of the messages of a ceremony

The loop follows the protocol: every run of a ceremony is a path of turns, and a message is
sent in the turn and at the stage that the protocol asks for (`safe_follows`). The step of
the loop does not tell whether the tree has been signed. What keeps the loop from signing it
again is the nonce tree: a nonce is used up by the signature it is used for, so a second
round of signatures fails at the first node that is asked for (`signNodes_ne_ok`).

The order and the uniqueness of the messages (`messages_in_order`) are then those of the
protocol.
-/

set_option autoImplicit false

namespace ArkadeEscrow
namespace Batch

open Interaction Program Protocol

variable {L : BatchLib}

/-! ## Nonces that are used up -/

/-- `sign_batch_tree_tx` fails for the node, whatever else it is given. -/
def Spent (txid : Txid) (nonceTree : L.NonceKps) : Prop :=
  ∀ expiry forfeitPk cosignerKp aggNoncePk graph commitTx, ∃ e,
    L.signBatchTreeTx txid expiry forfeitPk cosignerKp aggNoncePk graph commitTx nonceTree =
      .error e

/-- A signature uses up the nonce of its node, and brings no other back. -/
def ConsumesNonces (L : BatchLib) : Prop :=
  ∀ txid expiry forfeitPk cosignerKp aggNoncePk graph commitTx (nonceTree : L.NonceKps)
    partialSigs (nonceTree' : L.NonceKps),
    L.signBatchTreeTx txid expiry forfeitPk cosignerKp aggNoncePk graph commitTx nonceTree =
      .ok (partialSigs, nonceTree') →
    Spent txid nonceTree' ∧ ∀ other, Spent other nonceTree → Spent other nonceTree'

/-- The graph of a tree has at least one node. -/
def HasNodes (L : BatchLib) : Prop :=
  ∀ chunks graph, L.newTxGraph chunks = .ok graph → L.nodeTxids graph ≠ []

section Nonces

variable {forfeitPk : XOnlyPublicKey} {cosignerKp : Keypair} {expiry : UInt32} {commitTx : Psbt}
  {graph : L.TxGraph} {aggNoncePks : BTreeMap Txid L.AggregatedNonce} {txids : List Txid}
  {txid : Txid} {progress progress' : PartialSigTree L × L.NonceKps}

/-- The nonces of all nodes that are signed are used up. -/
theorem spent_of_signNodes (consumes : ConsumesNonces L)
    (signed : signNodes forfeitPk cosignerKp expiry commitTx graph aggNoncePks txids progress =
      .ok progress') (earlier : txid ∈ txids ∨ Spent txid progress.2) :
    Spent txid progress'.2 := by
  induction txids generalizing progress with
  | nil =>
      cases signed
      exact earlier.resolve_left List.not_mem_nil
  | cons first txids ih =>
      obtain ⟨aggNoncePk, _, signed⟩ := Results.bind_eq_ok_iff.mp signed
      obtain ⟨⟨sigs, nonceTree⟩, node, signed⟩ := Results.bind_eq_ok_iff.mp signed
      obtain ⟨here, others⟩ := consumes _ _ _ _ _ _ _ _ _ _ (printed_eq_ok_iff.mp node)
      apply ih signed
      rcases earlier with member | earlier
      · rcases List.mem_cons.mp member with rfl | member
        · exact .inr here
        · exact .inl member
      · exact .inr (others txid earlier)

/-- Nodes are not signed with a nonce that has been used up. -/
theorem signNodes_ne_ok (consumes : ConsumesNonces L) (member : txid ∈ txids)
    (spent : Spent txid progress.2) :
    signNodes forfeitPk cosignerKp expiry commitTx graph aggNoncePks txids progress ≠
      .ok progress' := by
  intro signed
  induction txids generalizing progress with
  | nil => cases member
  | cons first txids ih =>
      obtain ⟨aggNoncePk, _, signed⟩ := Results.bind_eq_ok_iff.mp signed
      obtain ⟨⟨sigs, nonceTree⟩, node, signed⟩ := Results.bind_eq_ok_iff.mp signed
      replace node := printed_eq_ok_iff.mp node
      rcases List.mem_cons.mp member with rfl | member
      · obtain ⟨e, fails⟩ := spent expiry forfeitPk cosignerKp aggNoncePk graph commitTx
        cases fails.symm.trans node
      · exact ih member ((consumes _ _ _ _ _ _ _ _ _ _ node).2 txid spent) signed

end Nonces

/-! ## The loop and the protocol -/

/-- The variables of the loop fit the stage of the messages. -/
structure Agrees (stage : Stage) (s : State L) : Prop where
  step : s.step = stage.step
  nodes : stage.step = .batchSigningStarted →
    ∃ graph, s.vtxoGraph = some graph ∧ L.nodeTxids graph ≠ []
  spent : stage = .signed → ∃ graph nonceTree, s.vtxoGraph = some graph ∧
    s.ourNonceTrees = some nonceTree ∧ ∃ txid ∈ L.nodeTxids graph, Spent txid nonceTree

/-- The ceremony over the stream `whole` has come to this stage in these turns, and this much
of the stream is left. -/
structure Transcript (delegate : Delegate L) (h : History L) (intentId : String)
    (whole : List (StreamItem L)) (turns : List (Handling L)) (stream : List (StreamItem L))
    (stage : Stage) : Prop where
  history : ∃ topics, h = preamble delegate intentId topics whole ++ shown turns
  handled : whole = turns.map (fun handling => .ok handling.event) ++ stream
  path : Path intentId .registered turns stage

/-- What precedes a message in its turn: nonces are drawn at random before they are submitted. -/
def Draws : Ask L → History L → Prop
  | .submitTreeNonces _ _ _, drawn => ∃ entropy, drawn = [.sent .random, .answered .random entropy]
  | _, drawn => drawn = []

/-- A message is one that the protocol sends, in answer to the next event of the stream. -/
def Follows (delegate : Delegate L) (h : History L) (request : Ask L) : Prop :=
  reaches? request = none ∨ ∃ before drawn intentId whole turns event stream stage,
    h = before ++ drawn ∧ Draws request drawn ∧
      Transcript delegate before intentId whole turns (.ok event :: stream) stage ∧
        Sends intentId stage event request

/-- **The invariant of the loop.** -/
def Underway (delegate : Delegate L) (intentId : String) (whole stream : List (StreamItem L))
    (s : State L) (h : History L) : Prop :=
  ∃ turns stage, Transcript delegate h intentId whole turns stream stage ∧ Agrees stage s

variable {B : BitcoinLib} {info : Info} {delegate : Delegate L} {cosignerKp : Keypair}
variable {intentId : String} {whole stream : List (StreamItem L)} {turns : List (Handling L)}
variable {event : StreamEvent L} {stage stage' : Stage} {h : History L} {s : State L}

namespace Transcript

theorem opened (transcript : Transcript delegate h intentId whole turns stream stage) :
    Opened delegate h intentId whole := by
  obtain ⟨topics, rfl⟩ := transcript.history
  exact ⟨topics, List.prefix_append _ _⟩

theorem turn (transcript : Transcript delegate h intentId whole turns (.ok event :: stream) stage)
    {exchanged : History L} (move : Move intentId stage ⟨event, exchanged⟩ stage') :
    Transcript delegate (h ++ exchanged) intentId whole (turns ++ [⟨event, exchanged⟩]) stream
      stage' where
  history := by
    obtain ⟨topics, rfl⟩ := transcript.history
    exact ⟨topics, by rw [shown_append_singleton, List.append_assoc]⟩
  handled := by simp [transcript.handled]
  path := transcript.path.turn move

/-- An event that is answered with nothing. -/
theorem idle (transcript : Transcript delegate h intentId whole turns (.ok event :: stream) stage)
    {s' : State L} (agrees : Agrees stage s') : Underway delegate intentId whole stream s' h := by
  have next := transcript.turn (.idle stage event)
  rw [List.append_nil] at next
  exact ⟨_, stage, next, agrees⟩

/-- A message that the protocol sends at once. -/
theorem follows
    (transcript : Transcript delegate h intentId whole turns (.ok event :: stream) stage)
    {request : Ask L} (sends : Sends intentId stage event request) (atOnce : Draws request []) :
    Follows delegate h request :=
  .inr ⟨h, [], intentId, whole, turns, event, stream, stage, (List.append_nil h).symm, atOnce,
    transcript, sends⟩

end Transcript

/-! ## The turns of the loop -/

section Turn

variable (agrees : Agrees stage s)
include agrees

/-- A turn that keeps what the stage says of the loop. -/
theorem Agrees.keep {s' : State L} (step : s'.step = s.step) (graph : s'.vtxoGraph = s.vtxoGraph)
    (nonces : s'.ourNonceTrees = s.ourNonceTrees) : Agrees stage s' where
  step := step.trans agrees.step
  nodes := graph ▸ agrees.nodes
  spent := graph ▸ nonces ▸ agrees.spent

/-- A signature on the tree leaves its nodes as they are. -/
theorem Agrees.record (keeps : KeepsNodes L B) {graph graph' : L.TxGraph} {txid : Txid}
    {signature : SchnorrSignature} (present : s.vtxoGraph = some graph)
    (recorded : recordSignature B graph txid signature = .ok graph') :
    Agrees stage { s with vtxoGraph := some graph' } where
  step := agrees.step
  nodes signing := by
    obtain ⟨graph₀, present₀, nodes⟩ := agrees.nodes signing
    obtain rfl : graph = graph₀ := Option.some.inj (present.symm.trans present₀)
    exact ⟨graph', rfl, (keeps _ _ _ _ recorded).1 ▸ nodes⟩
  spent signed := by
    obtain ⟨graph₀, nonceTree, present₀, left, nodes⟩ := agrees.spent signed
    obtain rfl : graph = graph₀ := Option.some.inj (present.symm.trans present₀)
    exact ⟨graph', nonceTree, rfl, left, (keeps _ _ _ _ recorded).1 ▸ nodes⟩

theorem turns_treeTx
    {kind : BatchTreeEventType} {chunk : L.TxGraphChunk}
    (transcript : Transcript delegate h intentId whole turns (.ok (.treeTx kind chunk) :: stream)
      stage) :
    Turns (historian (interface L)) (.guard (Follows delegate))
      (Underway delegate intentId whole stream) (onTreeTx s kind chunk) h := by
  refine turns_onTreeTx (fun _ => transcript.idle agrees) ?_ ?_
  · exact fun _ _ chunks _ => transcript.idle (agrees.keep rfl rfl rfl)
  · exact fun _ _ chunks _ => transcript.idle (agrees.keep rfl rfl rfl)

/-- The nonces of a node. Signatures that have been submitted have used up the nonces, so the
tree is not signed again. -/
theorem turns_treeNonces (consumes : ConsumesNonces L)
    (signing : stage.step = .batchSigningStarted) {id : String} {txid : Txid}
    {nonces : BTreeMap XOnlyPublicKey L.PublicNonce}
    (transcript : Transcript delegate h intentId whole turns
      (.ok (.treeNonces id txid nonces) :: stream) stage) :
    Turns (historian (interface L)) (.guard (Follows delegate))
      (Underway delegate intentId whole stream)
      (onTreeNonces info.forfeitPk.xOnly cosignerKp s id txid nonces) h := by
  refine turns_onTreeNonces (fun _ => transcript.idle agrees) ?_ ?_
  · exact fun _ _ graph aggNoncePks _ _ _ => transcript.idle (agrees.keep rfl rfl rfl)
  · intro _ _ graph aggNoncePks nonceTree commitTx expiry partialSigs nonceTree' present _ _ left
      _ _ nodes
    cases stage with
    | nonced =>
        have sends := @Sends.signatures L intentId id txid nonces cosignerKp.publicKey partialSigs
        refine permits_historian (transcript.follows sends rfl) fun answer accepted => ?_
        subst accepted
        obtain ⟨graph₀, present₀, nonempty⟩ := agrees.nodes signing
        obtain rfl : graph = graph₀ := Option.some.inj (present.symm.trans present₀)
        obtain ⟨node, rest, cons⟩ := List.exists_cons_of_ne_nil nonempty
        have member : node ∈ L.nodeTxids graph := cons ▸ List.mem_cons_self
        refine ⟨_, .signed, transcript.turn (.signatures sends), agrees.step, ?_, fun _ => ?_⟩
        · exact fun _ => ⟨graph, present, nonempty⟩
        · exact ⟨graph, nonceTree', present, rfl, node, member,
            spent_of_signNodes consumes nodes (.inl member)⟩
    | signed =>
        obtain ⟨graph₀, nonceTree₀, present₀, left₀, node, member, spent⟩ := agrees.spent rfl
        obtain rfl : graph = graph₀ := Option.some.inj (present.symm.trans present₀)
        obtain rfl : nonceTree = nonceTree₀ := Option.some.inj (left.symm.trans left₀)
        exact absurd nodes (signNodes_ne_ok consumes member spent)
    | _ => cases signing

theorem turns_finalization (signing : stage.step = .batchSigningStarted)
    (transcript : Transcript delegate h intentId whole turns (.ok .batchFinalization :: stream)
      stage) :
    Turns (historian (interface L)) (.guard (Follows delegate))
      (Underway delegate intentId whole stream) (onBatchFinalization delegate s) h := by
  have finalized : Agrees .finalized
      { s with connectorsGraphChunks := none, step := .finalized } := ⟨rfl, nofun, nofun⟩
  refine turns_onBatchFinalization (fun _ => transcript.idle agrees) ?_ ?_
  · intro _ _
    have next := transcript.turn (.finalize signing)
    rw [List.append_nil] at next
    exact ⟨_, .finalized, next, finalized⟩
  · intro _ chunks connectors signedForfeits _ _ _ _
    have sends := @Sends.forfeits L intentId stage signing signedForfeits none
    refine permits_historian (transcript.follows sends rfl) fun answer accepted => ?_
    subst accepted
    exact ⟨_, .finalized, transcript.turn (.forfeits sends), finalized⟩

end Turn

theorem turns_confirm (agrees : Agrees .registered s) {id : String} {intentIdHashes : List String}
    {batchExpiry : UInt32}
    (transcript : Transcript delegate h intentId whole turns
      (.ok (.batchStarted id intentIdHashes batchExpiry) :: stream) .registered) :
    Turns (historian (interface L)) (.guard (Follows delegate))
      (Underway delegate intentId whole stream)
      (onBatchStarted intentId s id intentIdHashes batchExpiry) h := by
  refine turns_onBatchStarted (fun _ => transcript.idle agrees) fun _ included => ?_
  have sends := @Sends.confirm L intentId id intentIdHashes batchExpiry included
  refine permits_historian (transcript.follows sends rfl) fun answer accepted => ?_
  subst accepted
  exact ⟨_, .confirmed, transcript.turn (.confirm sends), rfl, nofun, nofun⟩

theorem turns_signingStarted (hasNodes : HasNodes L) (agrees : Agrees .confirmed s) {id : String}
    {cosignersPubkeys : List PublicKey} {commitTx : Psbt}
    (transcript : Transcript delegate h intentId whole turns
      (.ok (.treeSigningStarted id cosignersPubkeys commitTx) :: stream) .confirmed) :
    Turns (historian (interface L)) (.guard (Follows delegate))
      (Underway delegate intentId whole stream)
      (onTreeSigningStarted cosignerKp s id cosignersPubkeys commitTx) h := by
  refine turns_onTreeSigningStarted (fun _ => transcript.idle agrees) ?_
  intro _ chunks graph _ built _
  refine permits_historian (.inl rfl) fun entropy nonceTree _ => ?_
  have sends := @Sends.nonces L intentId id cosignersPubkeys commitTx cosignerKp.publicKey
    (L.toNoncePks nonceTree)
  have follows : Follows delegate (h ++ [.sent .random, .answered .random entropy])
      (.submitTreeNonces id cosignerKp.publicKey (L.toNoncePks nonceTree)) := by
    exact .inr ⟨h, _, intentId, whole, turns, _, stream, .confirmed, rfl, ⟨entropy, rfl⟩,
      transcript, sends⟩
  refine permits_historian follows fun answer accepted => ?_
  subst accepted
  rw [List.append_assoc]
  refine ⟨_, .nonced, transcript.turn (.nonces entropy sends), rfl, fun _ => ?_, nofun⟩
  exact ⟨graph, rfl, hasNodes chunks graph built⟩

/-- **Every turn follows the protocol.** -/
theorem turns_underway (consumes : ConsumesNonces L) (hasNodes : HasNodes L)
    (keeps : KeepsNodes L B)
    (underway : Underway delegate intentId whole (.ok event :: stream) s h) :
    Turns (historian (interface L)) (.guard (Follows delegate))
      (Underway delegate intentId whole stream)
      (onEvent B info delegate cosignerKp intentId s event) h := by
  obtain ⟨turns, stage, transcript, agrees⟩ := underway
  by_cases awaited : awaits s.step event = true
  · rw [agrees.step] at awaited
    cases event with
    | batchStarted id intentIdHashes batchExpiry =>
        cases stage with
        | registered => exact turns_confirm agrees transcript
        | _ => cases awaited
    | treeTx kind chunk => exact turns_treeTx agrees transcript
    | treeSignature kind txid signature =>
        refine turns_onTreeSignature (transcript.idle agrees) ?_
        exact fun _ graph graph' present recorded =>
          transcript.idle (agrees.record keeps present recorded)
    | treeSigningStarted id cosignersPubkeys commitTx =>
        cases stage with
        | confirmed => exact turns_signingStarted hasNodes agrees transcript
        | _ => cases awaited
    | treeNonces id txid nonces =>
        cases stage with
        | nonced => exact turns_treeNonces agrees consumes rfl transcript
        | signed => exact turns_treeNonces agrees consumes rfl transcript
        | _ => cases awaited
    | batchFinalization =>
        cases stage with
        | nonced => exact turns_finalization agrees rfl transcript
        | signed => exact turns_finalization agrees rfl transcript
        | _ => cases awaited
    | batchFinalized id commitmentTxid =>
        cases stage with
        | finalized =>
            intro s' same
            simp [onBatchFinalized, agrees.step, Stage.step] at same
        | _ => cases awaited
    | batchFailed id reason => exact turns_onBatchFailed fun _ => transcript.idle agrees
    | streamStarted => cases stage <;> cases awaited
    | treeNoncesAggregated => cases stage <;> cases awaited
    | heartbeat => cases stage <;> cases awaited
  · exact turns_of_not_awaits (eq_false_of_ne_true awaited) (transcript.idle agrees)

/-! ## The whole ceremony -/

/-- The ceremony has got to the end of the protocol, and the next event is the
`BatchFinalized` with this commitment txid. -/
def Completed (delegate : Delegate L) (h : History L) (commitmentTxid : Txid) : Prop :=
  ∃ intentId whole turns id stream,
    Transcript delegate h intentId whole turns (.ok (.batchFinalized id commitmentTxid) :: stream)
      .finalized

/-- **A ceremony follows the protocol.** -/
theorem settleDelegate_follows (consumes : ConsumesNonces L) (hasNodes : HasNodes L)
    (keeps : KeepsNodes L B) :
    Fallible.Achieves (historian (interface L)) (.guard (Follows delegate))
      (fun commitmentTxid h => Completed delegate h commitmentTxid)
      (settleDelegate B info delegate cosignerKp) [] := by
  refine Fallible.achieves_bind.mpr fun _ _ => ?_
  refine Fallible.achieves_bind.mpr fun outpoints _ => ?_
  refine Fallible.achieves_bind.mpr (permits_historian (.inl rfl) fun registered => ?_)
  intro intentId known
  obtain rfl : registered = .ok intentId := printed_eq_ok_iff.mp known
  refine Fallible.achieves_bind.mpr (permits_historian (.inl rfl) fun opened => ?_)
  intro whole received
  obtain rfl : opened = .ok whole := printed_eq_ok_iff.mp received
  refine achieves_eventLoop (Underway delegate intentId whole)
    (fun _ _ _ _ => turns_underway consumes hasNodes keeps) ?_ ?_
  · rintro id commitmentTxid stream s h step ⟨turns, stage, transcript, agrees⟩
    obtain rfl : stage = .finalized := by
      have same : stage.step = .finalized := agrees.step.symm.trans step
      cases stage with
      | finalized => rfl
      | _ => cases same
    exact ⟨intentId, whole, turns, id, stream, transcript⟩
  · exact ⟨[], .registered, ⟨⟨_, rfl⟩, rfl, .nil⟩, rfl, nofun, nofun⟩

/-- What has happened before a message is sent: no other message of its kind, and the ones
that it has to come after. A confirmation answers a `BatchStarted` that includes the intent. -/
def InOrder (delegate : Delegate L) (h : History L) : Ask L → Prop
  | .confirmRegistration intentId =>
      (∀ earlier, .sent (.confirmRegistration earlier) ∉ h) ∧
        ∃ whole turns id intentIdHashes batchExpiry stream,
          Transcript delegate h intentId whole turns
            (.ok (.batchStarted id intentIdHashes batchExpiry) :: stream) .registered ∧
          intentIdHashes.contains (intentIdHash L intentId) = true
  | .submitTreeNonces _ _ _ =>
      (∀ batchId own noncePks, .sent (.submitTreeNonces batchId own noncePks) ∉ h) ∧
        ∃ intentId, .answered (.confirmRegistration intentId) (.ok ()) ∈ h
  | .submitTreeSignatures _ _ _ =>
      (∀ batchId own partialSigs, .sent (.submitTreeSignatures batchId own partialSigs) ∉ h) ∧
        NoncesAccepted h
  | .submitSignedForfeitTxs _ _ =>
      (∀ signedForfeits commitTx, .sent (.submitSignedForfeitTxs signedForfeits commitTx) ∉ h) ∧
        NoncesAccepted h
  | .registerIntent _ | .deleteIntent _ | .getEventStream _ | .random => True

/-- A `BatchFinalization` has been handled after the nonces were accepted, and then the
`BatchFinalized` with this commitment txid. -/
def FinalizedAfterNonces (delegate : Delegate L) (h : History L) (commitmentTxid : Txid) : Prop :=
  ∃ intentId whole before handling between exchanged after id stream,
    Transcript delegate h intentId whole
      (before ++ handling :: (between ++ ⟨.batchFinalization, exchanged⟩ :: after))
      (.ok (.batchFinalized id commitmentTxid) :: stream) .finalized ∧
    NoncesAccepted handling.shown

/-- What the ceremony has exchanged are its opening and its turns. -/
theorem Transcript.mem_iff (transcript : Transcript delegate h intentId whole turns stream stage)
    {request : Ask L} {next : Stage} (reached : reaches? request = some next) :
    .sent request ∈ h ↔ .sent request ∈ shown turns := by
  obtain ⟨topics, rfl⟩ := transcript.history
  have first : request ≠ .registerIntent delegate.intent := by
    rintro rfl
    cases reached
  have second : request ≠ .getEventStream topics := by
    rintro rfl
    cases reached
  simp [preamble, first, second]

theorem Draws.silent {request earlier : Ask L} {drawn : History L} (draws : Draws request drawn)
    (sent : .sent earlier ∈ drawn) : reaches? earlier = none := by
  cases request with
  | submitTreeNonces batchId own noncePks =>
      obtain ⟨entropy, rfl⟩ := draws
      obtain rfl : earlier = .random := by simpa using sent
      rfl
  | _ =>
      cases draws
      cases sent

/-- A message that follows the protocol is in order. -/
theorem inOrder_of_follows {request : Ask L} (follows : Follows delegate h request) :
    InOrder delegate h request := by
  rcases follows with other | ⟨before, drawn, intentId, whole, turns, event, stream, stage, rfl,
    draws, transcript, sends⟩
  · cases request with
    | registerIntent intent => trivial
    | deleteIntent intent => trivial
    | getEventStream topics => trivial
    | random => trivial
    | _ => cases other
  obtain ⟨topics, history⟩ := id transcript.history
  have unsent {earlier : Ask L} {next : Stage} (reached : reaches? earlier = some next)
      (same : reaches? earlier = reaches? request) : .sent earlier ∉ before ++ drawn := by
    rw [List.mem_append, transcript.mem_iff reached]
    rintro (sent | sent)
    · exact transcript.path.unsent sends same sent
    · exact absurd (reached.symm.trans (draws.silent sent)) (by simp)
  have exchanged {e : Event (interface L)} (member : e ∈ shown turns) : e ∈ before ++ drawn := by
    rw [history]
    exact List.mem_append_left _ (List.mem_append_right _ member)
  have accepted (later : 2 ≤ stage.rank) : NoncesAccepted (before ++ drawn) := by
    obtain ⟨batchId, own, noncePks, member⟩ := transcript.path.noncesAccepted later
    exact ⟨batchId, own, noncePks, exchanged member⟩
  cases sends with
  | confirm included =>
      obtain rfl : drawn = [] := draws
      rw [List.append_nil] at unsent ⊢
      exact ⟨fun _ => unsent rfl rfl, whole, turns, _, _, _, stream, transcript, included⟩
  | nonces own noncePks =>
      refine ⟨fun _ _ _ => unsent rfl rfl, intentId, ?_⟩
      exact exchanged (transcript.path.confirmed (by decide))
  | signatures own partialSigs => exact ⟨fun _ _ _ => unsent rfl rfl, accepted (by decide)⟩
  | forfeits signing signedForfeits commitTx =>
      exact ⟨fun _ _ => unsent rfl rfl, accepted (rank_of_signing signing).1⟩

theorem finalizedAfterNonces_of_completed {commitmentTxid : Txid}
    (completed : Completed delegate h commitmentTxid) :
    FinalizedAfterNonces delegate h commitmentTxid := by
  obtain ⟨intentId, whole, turns, id, stream, transcript⟩ := completed
  obtain ⟨before, _, _, _, _, between, exchanged, after, rfl, accepted⟩ := transcript.path.finalized
  exact ⟨intentId, whole, before, _, between, exchanged, after, id, stream, transcript, accepted⟩

/-- **The messages of a ceremony are in order, and none is sent twice.** Whatever the stream
and the answers: each message is sent at most once and after those that it depends on, the
confirmation in answer to a batch that includes the intent; a commitment txid is returned
only after a `BatchFinalization` that followed the nonces; and an event that the step does
not await is answered with nothing. -/
theorem messages_in_order (consumes : ConsumesNonces L) (hasNodes : HasNodes L)
    (keeps : KeepsNodes L B) {t : Thread (interface L) (Except Error Txid)}
    (run : Evolves (settleDelegate B info delegate cosignerKp).run h t) :
    (∀ before request after, h = before ++ .sent request :: after →
      InOrder delegate before request) ∧
    (∀ commitmentTxid, t = .running (.done (.ok commitmentTxid)) →
      FinalizedAfterNonces delegate h commitmentTxid) ∧
    ∀ intentId s event, awaits s.step event = false →
      onEvent B info delegate cosignerKp intentId s event = return .next s := by
  obtain ⟨thread, follows⟩ := run.upholds (D := .guard (Follows delegate)) trivial
    (settleDelegate_follows consumes hasNodes keeps)
  refine ⟨fun before request after split => ?_, ?_, fun _ _ _ => onEvent_of_not_awaits⟩
  · exact inOrder_of_follows (follows before request after split)
  · rintro commitmentTxid rfl
    exact finalizedAfterNonces_of_completed (thread.2 commitmentTxid rfl)

/-! ## A ceremony that gets to its end -/

theorem spent_forest_iff {txid : Txid} {nonces : List Txid} :
    @Spent BatchLib.forest txid nonces ↔ txid ∉ nonces := by
  constructor
  · intro spent member
    obtain ⟨e, fails⟩ : ∃ e, takeNonce txid 0 nonces = .error e :=
      spent 0 ⟨0⟩ Sample.cosignerKp (0 : Nat) Forest.tree Forest.root
    cases (takeNonce_eq_ok_iff.mpr ⟨member, rfl, rfl⟩).symm.trans fails
  · exact fun absent _ _ _ _ _ _ => ⟨_, if_neg absent⟩

theorem consumesNonces_forest : ConsumesNonces BatchLib.forest := by
  intro txid _ _ _ aggNoncePk _ _ nonces sigs left signed
  obtain ⟨-, -, rfl⟩ := takeNonce_eq_ok_iff.mp signed
  refine ⟨spent_forest_iff.mpr fun member => ?_, fun other before => ?_⟩
  · exact absurd rfl (of_decide_eq_true (List.mem_filter.mp member).2)
  · exact spent_forest_iff.mpr fun member =>
      spent_forest_iff.mp before (List.mem_filter.mp member).1

theorem hasNodes_forest : HasNodes BatchLib.forest := by
  intro chunks graph built
  obtain ⟨rfl, some, -⟩ := newTxGraph_forest_eq_ok_iff.mp built
  exact fun nothing => some (List.map_eq_nil_iff.mp nothing)

theorem recordSignature_forest (graph : List Psbt) (txid : Txid) (signature : SchnorrSignature) :
    @recordSignature BatchLib.forest .reference graph txid signature = .ok graph := by
  by_cases other : BitcoinLib.reference.computeTxid (BatchLib.forest.root graph).unsignedTx ≠ txid
  · exact congrArg (Except.map Prod.fst) (if_pos other)
  · exact congrArg (Except.map Prod.fst) (if_neg other)

theorem keepsNodes_forest : KeepsNodes BatchLib.forest .reference := by
  intro graph graph' txid signature recorded
  obtain rfl : graph' = graph :=
    Except.ok.inj (recorded.symm.trans (recordSignature_forest graph txid signature))
  exact ⟨rfl, rfl⟩

theorem messages_in_order_sample : ∃ topics,
    Evolves (settleDelegate .reference Forest.info Forest.delegate Forest.cosignerKp).run
      (Forest.ceremony topics) (.running (.done (.ok ⟨1⟩))) ∧
    FinalizedAfterNonces Forest.delegate (Forest.ceremony topics) ⟨1⟩ ∧
    ∃ before after, Forest.ceremony topics =
        before ++ .sent (.submitTreeSignatures "batch" Forest.cosignerKp.publicKey
          Forest.signatures) :: after ∧
      NoncesAccepted before := by
  obtain ⟨topics, run⟩ := Forest.evolves_ceremony
  obtain ⟨ordered, finalized, -⟩ :=
    messages_in_order consumesNonces_forest hasNodes_forest keepsNodes_forest run
  have split : Forest.ceremony topics = (Forest.ceremony topics).take 10 ++
      .sent (.submitTreeSignatures "batch" Forest.cosignerKp.publicKey Forest.signatures) ::
        (Forest.ceremony topics).drop 11 := rfl
  exact ⟨topics, run, finalized ⟨1⟩ rfl, _, _, split, (ordered _ _ _ split).2⟩

end Batch
end ArkadeEscrow
