import ArkadeEscrow.Data.Results
import ArkadeEscrow.Batch.Settle

/-!
# Rules for the batch ceremony

What each arm of the event loop sends, and what is known when it does: one rule for each
arm, and `safe_eventLoop` for the loop. A failure ends the ceremony, so a rule only
asks what holds when the loop goes on. Proofs about the ceremony cite these rules and do
not unfold the arms.
-/

set_option autoImplicit false

namespace ArkadeEscrow
namespace Batch

open Interaction Program

variable {L : BatchLib} {B : BitcoinLib} {σ α : Type}
variable {O : Observer (interface L) σ} {D : Discipline (interface L) σ}
variable {info : Info} {delegate : Delegate L} {cosignerKp : Keypair} {intentId : String}

/-! ## Sequencing -/

/-- The turn upholds the discipline, and if the loop goes on, then in a state that
satisfies `next`. -/
abbrev Turns (O : Observer (interface L) σ) (D : Discipline (interface L) σ)
    (next : State L → σ → Prop) (turn : Action L (Turn L)) (o : σ) : Prop :=
  turn.run.Upholds O D (fun r o' => ∀ s', r = .ok (.next s') → next s' o') o

variable {next : State L → σ → Prop} {o : σ} {s : State L}

theorem turns_next : Turns O D next (return .next s) o ↔ next s o := by
  show (∀ s', Except.ok (Turn.next s) = .ok (.next s') → next s' o) ↔ _
  constructor
  · exact fun all => all s rfl
  · intro here s' same
    cases same
    exact here

theorem turns_check {r : Except Error α} {f : α → Action L (Turn L)} :
    Turns O D next (check L r >>= f) o ↔ ∀ a, r = .ok a → Turns O D next (f a) o := by
  rw [Turns, Fallible.upholds_bind]
  cases r with
  | error e =>
      constructor
      · intro _ a same
        cases same
      · intro _ s' same
        cases same
  | ok a =>
      constructor
      · intro here a' same
        cases same
        exact here
      · exact fun all => all a rfl

/-- A request whose answer may be an error. -/
theorem turns_of_permits (request : Ask L) {text : String} {send : Action L α}
    {f : α → Action L (Turn L)} (answer : Ask.Answer L request → Except String α)
    (run : send.run =
      (fun r => printed text (answer r)) <$> Program.request (I := interface L) request)
    (sends : Permits O D request
      (fun r o' => ∀ a, answer r = .ok a → Turns O D next (f a) o') o) :
    Turns O D next (send >>= f) o := by
  rw [Turns, Fallible.upholds_bind, run]
  refine sends.mono fun r o' rest => ?_
  show (Program.done (printed text (answer r)) : Program (interface L) _).Upholds O D _ o'
  cases reply : printed text (answer r) with
  | error e =>
      intro s' same
      cases same
  | ok a => exact rest a (printed_eq_ok_iff.mp reply)

theorem turns_random {f : L.Entropy → Action L (Turn L)}
    (sends : Permits O D .random (fun entropy o' => Turns O D next (f entropy) o') o) :
    Turns O D next (random L >>= f) o := by
  rw [Turns, Fallible.upholds_bind]
  exact sends

/-! ## The arms of the loop -/

theorem turns_onBatchStarted {id : String} {intentIdHashes : List String} {batchExpiry : UInt32}
    (skip : s.step ≠ .start ∨ intentIdHashes.contains (intentIdHash L intentId) = false → next s o)
    (join : s.step = .start → intentIdHashes.contains (intentIdHash L intentId) = true →
      Permits O D (.confirmRegistration intentId) (fun answer o' => answer = .ok () →
        next { s with
          batchId := some id
          batchExpiry := some batchExpiry
          step := .batchStarted } o') o) :
    Turns O D next (onBatchStarted intentId s id intentIdHashes batchExpiry) o := by
  rw [onBatchStarted]
  split
  · next other => exact turns_next.mpr (skip (.inl other))
  · next fits =>
      split
      · next included =>
          refine turns_of_permits (.confirmRegistration intentId) (fun answer => answer) rfl ?_
          refine (join (not_not.mp fits) included).mono fun answer o' rest _ reply => ?_
          exact turns_next.mpr (rest reply)
      · next excluded => exact turns_next.mpr (skip (.inr (eq_false_of_ne_true excluded)))

theorem turns_onTreeTx {batchTreeEventType : BatchTreeEventType} {txGraphChunk : L.TxGraphChunk}
    (skip : s.step ≠ .batchStarted ∧ s.step ≠ .batchSigningStarted → next s o)
    (vtxo : s.step = .batchStarted ∨ s.step = .batchSigningStarted →
      batchTreeEventType = .vtxo → ∀ chunks, s.vtxoGraphChunks = some chunks →
        next { s with vtxoGraphChunks := some (chunks ++ [txGraphChunk]) } o)
    (connector : s.step = .batchStarted ∨ s.step = .batchSigningStarted →
      batchTreeEventType = .connector → ∀ chunks, s.connectorsGraphChunks = some chunks →
        next { s with connectorsGraphChunks := some (chunks ++ [txGraphChunk]) } o) :
    Turns O D next (onTreeTx s batchTreeEventType txGraphChunk) o := by
  unfold onTreeTx
  split
  · next other => exact turns_next.mpr (skip other)
  · next other =>
      have fits : s.step = .batchStarted ∨ s.step = .batchSigningStarted := by
        rwa [not_and_or, not_not, not_not] at other
      cases batchTreeEventType with
      | vtxo =>
          refine turns_check.mpr fun chunks present => turns_next.mpr ?_
          exact vtxo fits rfl chunks (orError_eq_ok_iff.mp present)
      | connector =>
          refine turns_check.mpr fun chunks present => turns_next.mpr ?_
          exact connector fits rfl chunks (orError_eq_ok_iff.mp present)

theorem turns_onTreeSignature {batchTreeEventType : BatchTreeEventType} {txid : Txid}
    {signature : SchnorrSignature}
    (skip : next s o)
    (record : s.step = .batchSigningStarted → ∀ graph graph', s.vtxoGraph = some graph →
      recordSignature B graph txid signature = .ok graph' →
        next { s with vtxoGraph := some graph' } o) :
    Turns O D next (onTreeSignature B s batchTreeEventType txid signature) o := by
  unfold onTreeSignature
  split
  · exact turns_next.mpr skip
  · next fits =>
      cases batchTreeEventType with
      | connector => exact turns_next.mpr skip
      | vtxo =>
          cases present : s.vtxoGraph with
          | none => exact turns_next.mpr skip
          | some graph =>
              refine turns_check.mpr fun graph' recorded => turns_next.mpr ?_
              exact record (not_not.mp fits) graph graph' present
                (ofDisplay_eq_ok_iff.mp recorded)

theorem turns_onTreeSigningStarted {id : String} {cosignersPubkeys : List PublicKey}
    {unsignedCommitmentTx : Psbt}
    (skip : s.step ≠ .batchStarted → next s o)
    (start : s.step = .batchStarted → ∀ chunks graph, s.vtxoGraphChunks = some chunks →
      L.newTxGraph chunks = .ok graph →
      cosignersPubkeys.contains cosignerKp.publicKey = true →
        Permits O D .random (fun entropy o' => ∀ nonceTree,
          L.generateNonceTree entropy graph cosignerKp.publicKey unsignedCommitmentTx =
            .ok nonceTree →
          Permits O D (.submitTreeNonces id cosignerKp.publicKey (L.toNoncePks nonceTree))
            (fun answer o'' => answer = .ok () →
              next { s with
                vtxoGraphChunks := none
                vtxoGraph := some graph
                unsignedCommitmentTx := some unsignedCommitmentTx
                ourNonceTrees := some nonceTree
                step := .batchSigningStarted } o'') o') o) :
    Turns O D next (onTreeSigningStarted cosignerKp s id cosignersPubkeys unsignedCommitmentTx)
      o := by
  rw [onTreeSigningStarted]
  split
  · next other => exact turns_next.mpr (skip other)
  · next fits =>
      refine turns_check.mpr fun chunks present => ?_
      refine turns_check.mpr fun graph built => ?_
      refine turns_check.mpr fun _ cosigns => turns_random ?_
      have sends := start (not_not.mp fits) chunks graph (orError_eq_ok_iff.mp present)
        (printed_eq_ok_iff.mp built) (ensure_eq_ok_iff.mp cosigns)
      refine sends.mono fun entropy o' sends => ?_
      refine turns_check.mpr fun nonceTree generated => ?_
      refine turns_of_permits (.submitTreeNonces ..) (fun answer => answer) rfl ?_
      refine (sends nonceTree (printed_eq_ok_iff.mp generated)).mono
        fun answer o'' rest _ reply => ?_
      exact turns_next.mpr (rest reply)

theorem turns_onTreeNonces {forfeitPk : XOnlyPublicKey} {id : String} {txid : Txid}
    {nonces : BTreeMap XOnlyPublicKey L.PublicNonce}
    (skip : s.step ≠ .batchSigningStarted ∨ cosignerKp.publicKey.xOnly ∉ nonces → next s o)
    (collect : s.step = .batchSigningStarted → cosignerKp.publicKey.xOnly ∈ nonces →
      ∀ graph aggNoncePks, s.vtxoGraph = some graph →
      s.aggNoncePks.insert txid (L.aggregateNonces nonces) = aggNoncePks →
      aggNoncePks.size ≠ L.nbOfNodes graph →
        next { s with aggNoncePks := aggNoncePks } o)
    (sign : s.step = .batchSigningStarted → cosignerKp.publicKey.xOnly ∈ nonces →
      ∀ graph aggNoncePks nonceTree commitTx expiry partialSigs nonceTree',
      s.vtxoGraph = some graph →
      s.aggNoncePks.insert txid (L.aggregateNonces nonces) = aggNoncePks →
      aggNoncePks.size = L.nbOfNodes graph →
      s.ourNonceTrees = some nonceTree →
      s.unsignedCommitmentTx = some commitTx →
      s.batchExpiry = some expiry →
      signNodes forfeitPk cosignerKp expiry commitTx graph aggNoncePks (L.nodeTxids graph)
        (∅, nonceTree) = .ok (partialSigs, nonceTree') →
      Permits O D (.submitTreeSignatures id cosignerKp.publicKey partialSigs)
        (fun answer o' => answer = .ok () →
          next { s with aggNoncePks := aggNoncePks, ourNonceTrees := some nonceTree' } o') o) :
    Turns O D next (onTreeNonces forfeitPk cosignerKp s id txid nonces) o := by
  rw [onTreeNonces]
  split
  · next other => exact turns_next.mpr (skip (.inl other))
  · next fits =>
      replace fits := not_not.mp fits
      split
      · next own =>
          replace own := Std.ExtTreeMap.contains_iff_mem.mp own
          refine turns_check.mpr fun graph present => ?_
          replace present := orError_eq_ok_iff.mp present
          dsimp only at present ⊢
          split
          · next complete =>
              refine turns_check.mpr fun nonceTree left => ?_
              refine turns_check.mpr fun commitTx known => ?_
              refine turns_check.mpr fun expiry set => ?_
              refine turns_check.mpr fun ⟨partialSigs, nonceTree'⟩ signed => ?_
              refine turns_of_permits (.submitTreeSignatures ..) (fun answer => answer) rfl ?_
              refine (sign fits own graph _ nonceTree commitTx expiry partialSigs nonceTree' present
                rfl complete (orError_eq_ok_iff.mp left) (orError_eq_ok_iff.mp known)
                (orError_eq_ok_iff.mp set) signed).mono fun answer o' rest _ reply => ?_
              exact turns_next.mpr (rest reply)
          · next incomplete =>
              exact turns_next.mpr (collect fits own graph _ present rfl incomplete)
      · next other =>
          refine turns_next.mpr (skip (.inr fun own => other ?_))
          exact Std.ExtTreeMap.contains_iff_mem.mpr own

theorem turns_onBatchFinalization
    (skip : s.step ≠ .batchSigningStarted → next s o)
    (keep : s.step = .batchSigningStarted → s.connectorsGraphChunks = some [] →
      next { s with connectorsGraphChunks := none, step := .finalized } o)
    (forfeit : s.step = .batchSigningStarted →
      ∀ chunks connectors signedForfeits, s.connectorsGraphChunks = some chunks → chunks ≠ [] →
      L.newTxGraph chunks = .ok connectors →
      L.completeForfeitTxs delegate.forfeitPsbts (L.leaves connectors) = .ok signedForfeits →
      Permits O D (.submitSignedForfeitTxs signedForfeits none)
        (fun answer o' => answer = .ok () →
          next { s with connectorsGraphChunks := none, step := .finalized } o') o) :
    Turns O D next (onBatchFinalization delegate s) o := by
  rw [onBatchFinalization]
  split
  · next other => exact turns_next.mpr (skip other)
  · next fits =>
      replace fits := not_not.mp fits
      refine turns_check.mpr fun chunks present => ?_
      replace present := orError_eq_ok_iff.mp present
      split
      · next some =>
          have nonempty : chunks ≠ [] := by simpa using some
          refine turns_check.mpr fun connectors built => ?_
          refine turns_check.mpr fun signedForfeits completed => ?_
          refine turns_of_permits (.submitSignedForfeitTxs ..) (fun answer => answer) rfl ?_
          refine (forfeit fits chunks connectors signedForfeits present nonempty
            (printed_eq_ok_iff.mp built) (printed_eq_ok_iff.mp completed)).mono
              fun answer o' rest _ reply => ?_
          exact turns_next.mpr (rest reply)
      · next empty =>
          have none : chunks = [] := by simpa using empty
          exact turns_next.mpr (keep fits (none ▸ present))

theorem turns_onBatchFailed {id reason : String} (skip : some id ≠ s.batchId → next s o) :
    Turns O D next (check L (onBatchFailed s id reason)) o := by
  rw [onBatchFailed]
  split
  · intro s' same
    cases same
  · next other => exact turns_next.mpr (skip other)

/-! ## The loop -/

/-- The step in which an event is not skipped. The end of a batch is noticed in each. -/
def awaits : Step → StreamEvent L → Bool
  | _, .batchFailed .. => true
  | .start, .batchStarted .. => true
  | .batchStarted, .treeTx .. => true
  | .batchStarted, .treeSigningStarted .. => true
  | .batchSigningStarted, .treeTx .. => true
  | .batchSigningStarted, .treeSignature .. => true
  | .batchSigningStarted, .treeNonces .. => true
  | .batchSigningStarted, .batchFinalization => true
  | .finalized, .batchFinalized .. => true
  | _, _ => false

/-- **An event that the step does not await** changes nothing, and nothing is sent. -/
theorem onEvent_of_not_awaits {event : StreamEvent L} (idle : awaits s.step event = false) :
    onEvent B info delegate cosignerKp intentId s event = return .next s := by
  have other : ∀ step, awaits step event = true → s.step ≠ step := by
    intro step awaited same
    rw [same, awaited] at idle
    cases idle
  cases event with
  | batchFailed id reason => exact absurd rfl (other s.step rfl)
  | batchStarted id intentIdHashes batchExpiry => exact if_pos (other .start rfl)
  | treeTx kind chunk =>
      exact if_pos ⟨other .batchStarted rfl, other .batchSigningStarted rfl⟩
  | treeSigningStarted id cosigners commitTx => exact if_pos (other .batchStarted rfl)
  | treeSignature kind txid signature => exact if_pos (other .batchSigningStarted rfl)
  | treeNonces id txid nonces => exact if_pos (other .batchSigningStarted rfl)
  | batchFinalization => exact if_pos (other .batchSigningStarted rfl)
  | batchFinalized id commitmentTxid => exact congrArg pure (if_pos (other .finalized rfl))
  | streamStarted => rfl
  | treeNoncesAggregated => rfl
  | heartbeat => rfl

theorem turns_of_not_awaits {event : StreamEvent L} (idle : awaits s.step event = false)
    (same : next s o) :
    Turns O D next (onEvent B info delegate cosignerKp intentId s event) o := by
  rw [onEvent_of_not_awaits idle]
  exact turns_next.mpr same

/-- The turn does not return the commitment txid. -/
abbrev Continues (turn : Action L (Turn L)) : Prop :=
  turn.run.Yields fun r => ∀ commitmentTxid, r ≠ .ok (.finished commitmentTxid)

theorem continues_next : Continues (return .next s : Action L (Turn L)) := by
  rintro commitmentTxid ⟨⟩

theorem Continues.bind {x : Action L α} {f : α → Action L (Turn L)}
    (rest : ∀ a, Continues (f a)) : Continues (x >>= f) :=
  Fallible.yields_bind rest fun e => by rintro commitmentTxid ⟨⟩

/-- **Only `BatchFinalized` ends the loop with a result.** -/
theorem continues_onEvent {event : StreamEvent L}
    (other : ∀ id commitmentTxid, event ≠ .batchFinalized id commitmentTxid) :
    Continues (onEvent B info delegate cosignerKp intentId s event) := by
  cases event with
  | batchStarted id intentIdHashes batchExpiry =>
      rw [onEvent, onBatchStarted]
      split
      · exact continues_next
      · split
        · exact Continues.bind fun _ => continues_next
        · exact continues_next
  | treeTx kind chunk =>
      show Continues (onTreeTx s kind chunk)
      unfold onTreeTx
      split
      · exact continues_next
      · cases kind with
        | vtxo => exact Continues.bind fun _ => continues_next
        | connector => exact Continues.bind fun _ => continues_next
  | treeSignature kind txid signature =>
      show Continues (onTreeSignature B s kind txid signature)
      unfold onTreeSignature
      split
      · exact continues_next
      · cases kind with
        | connector => exact continues_next
        | vtxo =>
            cases s.vtxoGraph with
            | none => exact continues_next
            | some graph => exact Continues.bind fun _ => continues_next
  | treeSigningStarted id cosigners commitTx =>
      rw [onEvent, onTreeSigningStarted]
      split
      · exact continues_next
      · refine Continues.bind fun chunks => Continues.bind fun graph => ?_
        refine Continues.bind fun _ => Continues.bind fun entropy => ?_
        exact Continues.bind fun nonceTree => Continues.bind fun _ => continues_next
  | treeNonces id txid nonces =>
      rw [onEvent, onTreeNonces]
      split
      · exact continues_next
      · split
        · refine Continues.bind fun graph => ?_
          dsimp only
          split
          · refine Continues.bind fun nonceTree => Continues.bind fun commitTx => ?_
            refine Continues.bind fun expiry => Continues.bind fun signed => ?_
            exact Continues.bind fun _ => continues_next
          · exact continues_next
        · exact continues_next
  | batchFinalization =>
      rw [onEvent, onBatchFinalization]
      split
      · exact continues_next
      · refine Continues.bind fun chunks => ?_
        split
        · refine Continues.bind fun connectors => Continues.bind fun signedForfeits => ?_
          exact Continues.bind fun _ => continues_next
        · exact continues_next
  | batchFailed id reason =>
      rw [onEvent, onBatchFailed]
      split
      · rintro commitmentTxid ⟨⟩
      · exact continues_next
  | batchFinalized id commitmentTxid => exact absurd rfl (other id commitmentTxid)
  | streamStarted => exact continues_next
  | treeNoncesAggregated => exact continues_next
  | heartbeat => exact continues_next

/-- **The rule of the loop**: what every turn preserves, of the state and of the stream that
is left, holds until the loop returns. The induction is on the stream. -/
theorem achieves_eventLoop (inv : List (StreamItem L) → State L → σ → Prop)
    {post : Txid → σ → Prop}
    (turn : ∀ event stream s o, inv (.ok event :: stream) s o →
      Turns O D (inv stream) (onEvent B info delegate cosignerKp intentId s event) o)
    (finish : ∀ id commitmentTxid stream s o, s.step = .finalized →
      inv (.ok (.batchFinalized id commitmentTxid) :: stream) s o → post commitmentTxid o)
    {stream : List (StreamItem L)} (start : inv stream s o) :
    Fallible.Achieves O D post (eventLoop B info delegate cosignerKp intentId s stream) o := by
  induction stream generalizing s o with
  | nil => rintro _ ⟨⟩
  | cons item stream ih =>
      cases item with
      | error e => rintro _ ⟨⟩
      | ok event =>
          rw [eventLoop, Fallible.achieves_bind]
          by_cases last : ∃ id commitmentTxid, event = .batchFinalized id commitmentTxid
          · obtain ⟨id, commitmentTxid, rfl⟩ := last
            have here := turn _ stream s o start
            rw [onEvent, onBatchFinalized] at here ⊢
            split
            · next early =>
                rw [if_pos early] at here
                rintro _ ⟨⟩
                exact ih (turns_next.mp here)
            · next step =>
                rintro _ ⟨⟩ _ ⟨⟩
                exact finish id commitmentTxid stream s o (not_not.mp step) start
          · have other : ∀ id commitmentTxid, event ≠ .batchFinalized id commitmentTxid :=
              fun id commitmentTxid same => last ⟨id, commitmentTxid, same⟩
            refine ((turn event stream s o start).yields (continues_onEvent other)).mono ?_
            rintro r o' ⟨continues, rest⟩ t rfl
            cases t with
            | next s' => exact ih (rest s' rfl)
            | finished commitmentTxid => exact absurd rfl (continues commitmentTxid)

theorem safe_eventLoop (inv : List (StreamItem L) → State L → σ → Prop)
    (turn : ∀ event stream s o, inv (.ok event :: stream) s o →
      Turns O D (inv stream) (onEvent B info delegate cosignerKp intentId s event) o)
    {stream : List (StreamItem L)} (start : inv stream s o) :
    Safe O D (eventLoop B info delegate cosignerKp intentId s stream).run o :=
  (achieves_eventLoop inv turn (fun _ _ _ _ _ _ _ => trivial) start).safe

/-! ## What a ceremony sends -/

/-- The request neither registers nor deletes an intent. -/
def Ask.Other (request : Ask L) : Prop := request.isRegister = false ∧ request.isDelete = false

/-- The program neither registers nor deletes an intent. -/
abbrev Unregistering {α : Type} (x : Action L α) : Prop := Confined Ask.Other x.run

theorem unregistering_check {r : Except Error α} : Unregistering (check L r) := .done _

theorem unregistering_next : Unregistering (return .next s : Action L (Turn L)) := .done _

theorem Unregistering.bind {β : Type} {x : Action L α} {f : α → Action L β}
    (first : Unregistering x) (rest : ∀ a, Unregistering (f a)) : Unregistering (x >>= f) :=
  Fallible.confined_bind first rest

/-- A request whose answer may be an error. -/
theorem unregistering_of_request {β : Type} (request : Ask L)
    (other : request.Other)
    (f : Ask.Answer L request → Except Error β) :
    Unregistering (ExceptT.mk (f <$> Program.request (I := interface L) request)) :=
  Confined.map (.request (I := interface L) other) f

theorem unregistering_onEvent {event : StreamEvent L} :
    Unregistering (onEvent B info delegate cosignerKp intentId s event) := by
  cases event with
  | batchStarted id intentIdHashes batchExpiry =>
      rw [onEvent, onBatchStarted]
      split
      · exact unregistering_next
      · split
        · exact (unregistering_of_request (.confirmRegistration _) ⟨rfl, rfl⟩ _).bind fun _ =>
            unregistering_next
        · exact unregistering_next
  | treeTx kind chunk =>
      show Unregistering (onTreeTx s kind chunk)
      unfold onTreeTx
      split
      · exact unregistering_next
      · cases kind with
        | vtxo => exact unregistering_check.bind fun _ => unregistering_next
        | connector => exact unregistering_check.bind fun _ => unregistering_next
  | treeSignature kind txid signature =>
      show Unregistering (onTreeSignature B s kind txid signature)
      unfold onTreeSignature
      split
      · exact unregistering_next
      · cases kind with
        | connector => exact unregistering_next
        | vtxo =>
            cases s.vtxoGraph with
            | none => exact unregistering_next
            | some graph => exact unregistering_check.bind fun _ => unregistering_next
  | treeSigningStarted id cosigners commitTx =>
      rw [onEvent, onTreeSigningStarted]
      split
      · exact unregistering_next
      · refine unregistering_check.bind fun chunks => unregistering_check.bind fun graph => ?_
        refine unregistering_check.bind fun _ => ?_
        refine Unregistering.bind (Confined.map (.request ⟨rfl, rfl⟩) _) fun entropy => ?_
        refine unregistering_check.bind fun nonceTree => ?_
        exact (unregistering_of_request (.submitTreeNonces ..) ⟨rfl, rfl⟩ _).bind fun _ =>
          unregistering_next
  | treeNonces id txid nonces =>
      rw [onEvent, onTreeNonces]
      split
      · exact unregistering_next
      · split
        · refine unregistering_check.bind fun graph => ?_
          dsimp only
          split
          · refine unregistering_check.bind fun nonceTree =>
              unregistering_check.bind fun commitTx => ?_
            refine unregistering_check.bind fun expiry => unregistering_check.bind fun signed => ?_
            exact (unregistering_of_request (.submitTreeSignatures ..) ⟨rfl, rfl⟩ _).bind fun _ =>
              unregistering_next
          · exact unregistering_next
        · exact unregistering_next
  | batchFinalization =>
      rw [onEvent, onBatchFinalization]
      split
      · exact unregistering_next
      · refine unregistering_check.bind fun chunks => ?_
        split
        · refine unregistering_check.bind fun connectors => ?_
          refine unregistering_check.bind fun signedForfeits => ?_
          exact (unregistering_of_request (.submitSignedForfeitTxs ..) ⟨rfl, rfl⟩ _).bind fun _ =>
            unregistering_next
        · exact unregistering_next
  | batchFinalized id commitmentTxid => exact .done _
  | batchFailed id reason => exact unregistering_check
  | streamStarted => exact unregistering_next
  | treeNoncesAggregated => exact unregistering_next
  | heartbeat => exact unregistering_next

theorem unregistering_eventLoop {stream : List (StreamItem L)} :
    Unregistering (eventLoop B info delegate cosignerKp intentId s stream) := by
  induction stream generalizing s with
  | nil => exact .done _
  | cons item stream ih =>
      cases item with
      | error e => exact .done _
      | ok event =>
          rw [eventLoop]
          refine unregistering_onEvent.bind fun turn => ?_
          cases turn with
          | next s' => exact ih
          | finished commitmentTxid => exact .done _

/-- The checks that a ceremony makes before it sends anything. -/
def PassesLocalChecks (delegate : Delegate L) (cosignerKp : Keypair) : Prop :=
  cosignerKp.publicKey = delegate.delegateCosignerPk ∧
    ∃ outpoints, forfeitInputOutpoints delegate.forfeitPsbts = .ok outpoints

theorem passesLocalChecks_iff : PassesLocalChecks delegate cosignerKp ↔
    cosignerKp.publicKey = delegate.delegateCosignerPk ∧
      ∀ psbt ∈ delegate.forfeitPsbts, psbt.unsignedTx.input ≠ [] := by
  rw [PassesLocalChecks, forfeitInputOutpoints, Results.exists_mapM_eq_ok_iff]
  refine and_congr_right fun _ => ?_
  constructor
  · intro passes psbt member nothing
    obtain ⟨i, bound, rfl⟩ := List.mem_iff_getElem.mp member
    obtain ⟨outpoint, found⟩ := passes _ (List.mk_mem_zipIdx_iff_getElem?.mpr
      (List.getElem?_eq_getElem bound))
    dsimp only at found
    rw [nothing] at found
    cases found
  · rintro some ⟨psbt, i⟩ member
    obtain ⟨input, rest, inputs⟩ := List.exists_cons_of_ne_nil
      (some psbt (List.fst_mem_of_mem_zipIdx member))
    refine ⟨input.previousOutput, ?_⟩
    dsimp only
    rw [inputs]
    rfl

/-- **A ceremony that passes its checks registers the intent first**, and no other. -/
theorem settleDelegate_of_passes (passes : PassesLocalChecks delegate cosignerKp) :
    ∃ next, (settleDelegate B info delegate cosignerKp).run =
        .ask (I := interface L) (.registerIntent delegate.intent) next ∧
      ∀ answer, Confined Ask.Other (next answer) := by
  obtain ⟨own, outpoints, inputs⟩ := passes
  have first : ensure (cosignerKp.publicKey == delegate.delegateCosignerPk)
      "cosigner keypair does not match delegate_cosigner_pk" = .ok () :=
    ensure_eq_ok_iff.mpr (by simpa using own)
  rw [settleDelegate, first, inputs]
  refine ⟨_, rfl, fun registered => ?_⟩
  cases registered with
  | error e => exact .done _
  | ok intentId =>
      exact (unregistering_of_request (.getEventStream _) ⟨rfl, rfl⟩ _).bind fun stream =>
        unregistering_eventLoop

/-- A ceremony that does not pass its checks sends nothing. -/
theorem settleDelegate_of_not_passes (fails : ¬PassesLocalChecks delegate cosignerKp) :
    ∃ e, (settleDelegate B info delegate cosignerKp).run = .done (.error e) := by
  rw [settleDelegate]
  cases first : ensure (cosignerKp.publicKey == delegate.delegateCosignerPk)
      "cosigner keypair does not match delegate_cosigner_pk" with
  | error e => exact ⟨e, rfl⟩
  | ok _ =>
      cases inputs : forfeitInputOutpoints delegate.forfeitPsbts with
      | error e => exact ⟨e, rfl⟩
      | ok outpoints =>
          exact absurd ⟨by simpa using ensure_eq_ok_iff.mp first, outpoints, inputs⟩ fails

end Batch
end ArkadeEscrow
