import ArkadeEscrow.Batch.Rules
import ArkadeEscrow.Interaction.Runs

/-!
# Why a ceremony fails

A ceremony that has registered its intent can fail in three ways: the server refuses a message,
lets the batch fail or breaks off the stream; a library refuses what the server has sent; or the
ceremony itself gives up. The error repeats what the others have said (`Repeats`), and adds
texts that are fixed.
-/

set_option autoImplicit false

namespace ArkadeEscrow
namespace Batch

open Interaction Program

variable {L : BatchLib} {B : BitcoinLib} {info : Info} {delegate : Delegate L}
variable {cosignerKp : Keypair} {intentId : String} {s : State L}

/-- The text of an answer that is an error. -/
def refusal? : Event (interface L) → Option String
  | .answered (.registerIntent _) (.error text) => some text
  | .answered (.deleteIntent _) (.error text) => some text
  | .answered (.getEventStream _) (.error text) => some text
  | .answered (.confirmRegistration _) (.error text) => some text
  | .answered (.submitTreeNonces _ _ _) (.error text) => some text
  | .answered (.submitTreeSignatures _ _ _) (.error text) => some text
  | .answered (.submitSignedForfeitTxs _ _) (.error text) => some text
  | _ => none

/-- What has come over the event stream. -/
def received (h : List (Event (interface L))) : List (StreamItem L) :=
  h.flatMap fun
    | .answered (.getEventStream _) (.ok stream) => stream
    | _ => []

/-- A library refuses something with this text. -/
inductive LibraryRefuses (L : BatchLib) (B : BitcoinLib) (text : String) : Prop where
  | graph (chunks : List L.TxGraphChunk) : L.newTxGraph chunks = .error text →
      LibraryRefuses L B text
  | signature (graph : L.TxGraph) (txid : Txid) (signature : SchnorrSignature) :
      recordSignature B graph txid signature = .error text → LibraryRefuses L B text
  | nonces (entropy : L.Entropy) (graph : L.TxGraph) (cosignerPk : PublicKey) (commitTx : Psbt) :
      L.generateNonceTree entropy graph cosignerPk commitTx = .error text → LibraryRefuses L B text
  | node (txid : Txid) (expiry : UInt32) (forfeitPk : XOnlyPublicKey) (cosignerKp : Keypair)
      (aggNoncePk : L.AggregatedNonce) (graph : L.TxGraph) (commitTx : Psbt)
      (nonceTree : L.NonceKps) :
      L.signBatchTreeTx txid expiry forfeitPk cosignerKp aggNoncePk graph commitTx nonceTree =
        .error text → LibraryRefuses L B text
  | forfeits (forfeitPsbts connectors : List Psbt) :
      L.completeForfeitTxs forfeitPsbts connectors = .error text → LibraryRefuses L B text

/-- What the ceremony was about when somebody refused. -/
def purposes : List String :=
  ["getting event stream", "confirming intent registration", "submitting nonce tree",
    "submitting tree signatures", "submitting forfeit TXs", "building VTXO graph",
    "generating nonce tree", "signing VTXO tree", "building connectors graph",
    "completing forfeit TXs"]

/-- Why the ceremony gives up by itself. -/
def ownTexts (cosignerKp : Keypair) : List String :=
  ["unexpected VTXO graph chunk", "unexpected connector graph chunk",
    "signing started without VTXO graph",
    s!"own cosigner PK not in batch cosigners: {cosignerKp.publicKey.text}",
    "missing agg nonce for TX", "tree nonces received before signing started",
    "missing nonce trees", "missing commitment TX", "missing batch expiry",
    "finalization without connectors", "event stream ended unexpectedly"]

/-- The error repeats these texts of others. -/
inductive Repeats (B : BitcoinLib) (cosignerKp : Keypair) (items : List (StreamItem L))
    (h : List (Event (interface L))) : List String → Error → Prop where
  | refused {event : Event (interface L)} {text purpose : String} : event ∈ h →
      refusal? event = some text → purpose ∈ purposes →
      Repeats B cosignerKp items h [text] ((Error.msg text).context purpose)
  | broken {text : String} : .error text ∈ items →
      Repeats B cosignerKp items h [text] (.msg s!"event stream error: {text}")
  | failed {id reason : String} : .ok (.batchFailed id reason) ∈ items →
      Repeats B cosignerKp items h [id, reason] (.msg s!"batch failed {id}: {reason}")
  | library {text purpose : String} : LibraryRefuses L B text → purpose ∈ purposes →
      Repeats B cosignerKp items h [text] ((Error.msg text).context purpose)
  | signature {text : String} : LibraryRefuses L B text →
      Repeats B cosignerKp items h [text] (.msg text)
  | own {text : String} : text ∈ ownTexts cosignerKp → Repeats B cosignerKp items h [] (.msg text)

theorem Repeats.mono {items items' : List (StreamItem L)} {h h' : List (Event (interface L))}
    {texts : List String} {e : Error} (repeats : Repeats B cosignerKp items h texts e)
    (moreItems : items ⊆ items') (more : h ⊆ h') : Repeats B cosignerKp items' h' texts e := by
  cases repeats with
  | refused member text purpose => exact .refused (more member) text purpose
  | broken member => exact .broken (moreItems member)
  | failed member => exact .failed (moreItems member)
  | library refuses purpose => exact .library refuses purpose
  | signature refuses => exact .signature refuses
  | own member => exact .own member

/-! ## The arms of the loop -/

/-- The action fails only with errors of this kind. -/
abbrev Blames {α : Type} (B : BitcoinLib) (cosignerKp : Keypair) (items : List (StreamItem L))
    (x : Action L α) : Prop :=
  Fallible.FailsWith (fun h e => ∃ texts, Repeats B cosignerKp items h texts e) x

variable {items : List (StreamItem L)} {α β : Type}

theorem blames_next : Blames B cosignerKp items (return .next s : Action L (Turn L)) :=
  Fallible.failsWith_pure

theorem Blames.bind {x : Action L α} {f : α → Action L β} (first : Blames B cosignerKp items x)
    (rest : ∀ a, Blames B cosignerKp items (f a)) : Blames B cosignerKp items (x >>= f) :=
  Fallible.FailsWith.bind first rest fun _ _ _ ⟨texts, repeats⟩ =>
    ⟨texts, repeats.mono (List.Subset.refl _) (List.subset_append_right _ _)⟩

/-- Something is missing. -/
theorem blames_orError {text : String} {x : Option α} (own : text ∈ ownTexts cosignerKp) :
    Blames B cosignerKp items (check L (orError text x)) := by
  refine Fallible.failsWith_check fun e failed => ?_
  cases x with
  | none =>
      cases failed
      exact ⟨_, .own own⟩
  | some a => cases failed

theorem blames_printed {r : Except String α} {purpose : String}
    (refuses : ∀ text, r = .error text → LibraryRefuses L B text) (known : purpose ∈ purposes) :
    Blames B cosignerKp items (check L (printed purpose r)) := by
  refine Fallible.failsWith_check fun e failed => ?_
  cases r with
  | error text =>
      cases failed
      exact ⟨_, .library (refuses text rfl) known⟩
  | ok a => cases failed

/-- A message that is refused. -/
theorem blames_request {x : Action L α} (request : Ask L) (purpose : String)
    (answer : Ask.Answer L request → Except String α)
    (run : x.run =
      (fun r => printed purpose (answer r)) <$> Program.request (I := interface L) request)
    (refuses : ∀ r text, answer r = .error text →
      refusal? (.answered request r : Event (interface L)) = some text)
    (known : purpose ∈ purposes) : Blames B cosignerKp items x := by
  have fails : Blames B cosignerKp items (ExceptT.mk ((fun r => printed purpose (answer r)) <$>
      Program.request (I := interface L) request)) := by
    refine Fallible.failsWith_request fun r e failed => ?_
    cases reply : answer r with
    | error text =>
        rw [reply] at failed
        cases failed
        exact ⟨_, .refused (List.mem_cons_of_mem _ List.mem_cons_self) (refuses r text reply) known⟩
    | ok a =>
        rw [reply] at failed
        cases failed
  exact (show x = _ from run) ▸ fails

theorem blames_signNodes {forfeitPk : XOnlyPublicKey} {expiry : UInt32} {commitTx : Psbt}
    {graph : L.TxGraph} {aggNoncePks : BTreeMap Txid L.AggregatedNonce} {txids : List Txid}
    {progress : PartialSigTree L × L.NonceKps} :
    Blames B cosignerKp items (check L (signNodes forfeitPk cosignerKp expiry commitTx graph
      aggNoncePks txids progress)) := by
  refine Fallible.failsWith_check fun e failed => ?_
  induction txids generalizing progress with
  | nil => cases failed
  | cons txid txids ih =>
      obtain ⟨partialSigs, nonceTree⟩ := progress
      rw [signNodes] at failed
      cases nonce : aggNoncePks[txid]? with
      | none =>
          rw [nonce] at failed
          cases failed
          exact ⟨_, .own (by simp [ownTexts])⟩
      | some aggNoncePk =>
          rw [nonce] at failed
          replace failed : (printed "signing VTXO tree" (L.signBatchTreeTx txid expiry forfeitPk
            cosignerKp aggNoncePk graph commitTx nonceTree)).bind _ = .error e := failed
          cases signed : L.signBatchTreeTx txid expiry forfeitPk cosignerKp aggNoncePk graph
              commitTx nonceTree with
          | error text =>
              rw [signed] at failed
              cases failed
              exact ⟨_, .library (.node _ _ _ _ _ _ _ _ signed) (by simp [purposes])⟩
          | ok signatures =>
              rw [signed] at failed
              exact ih failed

theorem blames_onBatchStarted {id : String} {intentIdHashes : List String} {batchExpiry : UInt32} :
    Blames B cosignerKp items
      (onBatchStarted intentId s id intentIdHashes batchExpiry : Action L (Turn L)) := by
  rw [onBatchStarted]
  split
  · exact blames_next
  · split
    · refine Blames.bind ?_ fun _ => blames_next
      exact blames_request (.confirmRegistration intentId) "confirming intent registration"
        (fun answer => answer) rfl (by rintro _ _ rfl; rfl) (by simp [purposes])
    · exact blames_next

theorem blames_onTreeTx {kind : BatchTreeEventType} {chunk : L.TxGraphChunk} :
    Blames B cosignerKp items (onTreeTx s kind chunk) := by
  unfold onTreeTx
  split
  · exact blames_next
  · cases kind with
    | vtxo => exact (blames_orError (by simp [ownTexts])).bind fun _ => blames_next
    | connector => exact (blames_orError (by simp [ownTexts])).bind fun _ => blames_next

theorem blames_recordSignature {graph : L.TxGraph} {txid : Txid} {signature : SchnorrSignature} :
    Blames B cosignerKp items (check L (ofDisplay (recordSignature B graph txid signature))) := by
  refine Fallible.failsWith_check fun e failed => ?_
  cases recorded : recordSignature B graph txid signature with
  | error text =>
      rw [recorded] at failed
      cases failed
      exact ⟨_, .signature (.signature _ _ _ recorded)⟩
  | ok graph' =>
      rw [recorded] at failed
      cases failed

theorem blames_onTreeSignature {kind : BatchTreeEventType} {txid : Txid}
    {signature : SchnorrSignature} :
    Blames B cosignerKp items (onTreeSignature B s kind txid signature) := by
  unfold onTreeSignature
  split
  · exact blames_next
  · cases kind with
    | connector => exact blames_next
    | vtxo =>
        cases s.vtxoGraph with
        | none => exact blames_next
        | some graph => exact blames_recordSignature.bind fun _ => blames_next

theorem blames_ownKey {cosigners : List PublicKey} :
    Blames B cosignerKp items (check L (ensure (cosigners.contains cosignerKp.publicKey)
      s!"own cosigner PK not in batch cosigners: {cosignerKp.publicKey.text}")) := by
  refine Fallible.failsWith_check fun e failed => ?_
  rw [ensure] at failed
  split at failed
  · cases failed
  · cases failed
    exact ⟨_, .own (by simp [ownTexts])⟩

theorem blames_onTreeSigningStarted {id : String} {cosigners : List PublicKey} {commitTx : Psbt} :
    Blames B cosignerKp items (onTreeSigningStarted cosignerKp s id cosigners commitTx) := by
  rw [onTreeSigningStarted]
  split
  · exact blames_next
  · refine (blames_orError (by simp [ownTexts])).bind fun chunks => ?_
    refine (blames_printed (fun _ => .graph chunks) (by simp [purposes])).bind fun graph => ?_
    refine blames_ownKey.bind fun _ => ?_
    refine Blames.bind (Fallible.failsWith_request fun _ _ => ?_) fun entropy => ?_
    · rintro ⟨⟩
    refine (blames_printed (fun _ => .nonces entropy graph _ _) (by simp [purposes])).bind
      fun nonceTree => Blames.bind ?_ fun _ => blames_next
    exact blames_request (.submitTreeNonces ..) "submitting nonce tree" (fun answer => answer)
      rfl (by rintro _ _ rfl; rfl) (by simp [purposes])

theorem blames_onTreeNonces {forfeitPk : XOnlyPublicKey} {id : String} {txid : Txid}
    {nonces : BTreeMap XOnlyPublicKey L.PublicNonce} :
    Blames B cosignerKp items (onTreeNonces forfeitPk cosignerKp s id txid nonces) := by
  rw [onTreeNonces]
  split
  · exact blames_next
  · split
    · refine (blames_orError (by simp [ownTexts])).bind fun graph => ?_
      dsimp only
      split
      · refine (blames_orError (by simp [ownTexts])).bind fun nonceTree => ?_
        refine (blames_orError (by simp [ownTexts])).bind fun commitTx => ?_
        refine (blames_orError (by simp [ownTexts])).bind fun expiry => ?_
        refine blames_signNodes.bind fun signed => Blames.bind ?_ fun _ => blames_next
        exact blames_request (.submitTreeSignatures ..) "submitting tree signatures"
          (fun answer => answer) rfl (by rintro _ _ rfl; rfl) (by simp [purposes])
      · exact blames_next
    · exact blames_next

theorem blames_onBatchFinalization :
    Blames B cosignerKp items (onBatchFinalization delegate s) := by
  rw [onBatchFinalization]
  split
  · exact blames_next
  · refine (blames_orError (by simp [ownTexts])).bind fun chunks => ?_
    split
    · refine (blames_printed (fun _ => .graph chunks) (by simp [purposes])).bind
        fun connectors => ?_
      refine (blames_printed (fun _ => .forfeits _ _) (by simp [purposes])).bind
        fun signedForfeits => Blames.bind ?_ fun _ => blames_next
      exact blames_request (.submitSignedForfeitTxs ..) "submitting forfeit TXs"
        (fun answer => answer) rfl (by rintro _ _ rfl; rfl) (by simp [purposes])
    · exact blames_next

/-- **Why a turn fails.** -/
theorem blames_onEvent {event : StreamEvent L} (member : .ok event ∈ items) :
    Blames B cosignerKp items (onEvent B info delegate cosignerKp intentId s event) := by
  cases event with
  | batchStarted id intentIdHashes batchExpiry => exact blames_onBatchStarted
  | treeTx kind chunk => exact blames_onTreeTx
  | treeSignature kind txid signature => exact blames_onTreeSignature
  | treeSigningStarted id cosigners commitTx => exact blames_onTreeSigningStarted
  | treeNonces id txid nonces => exact blames_onTreeNonces
  | batchFinalization => exact blames_onBatchFinalization
  | batchFailed id reason =>
      refine Fallible.failsWith_check fun e failed => ?_
      rw [onBatchFailed] at failed
      split at failed
      · cases failed
        exact ⟨_, .failed member⟩
      · cases failed
  | batchFinalized id commitmentTxid => exact Fallible.failsWith_pure
  | streamStarted => exact blames_next
  | treeNoncesAggregated => exact blames_next
  | heartbeat => exact blames_next

theorem blames_eventLoop {stream : List (StreamItem L)} (within : stream ⊆ items) :
    Blames B cosignerKp items (eventLoop B info delegate cosignerKp intentId s stream) := by
  induction stream generalizing s with
  | nil =>
      refine Fallible.failsWith_check fun e failed => ?_
      cases failed
      exact ⟨_, .own (by simp [ownTexts])⟩
  | cons item stream ih =>
      have member := within List.mem_cons_self
      cases item with
      | error text =>
          refine Fallible.failsWith_check fun e failed => ?_
          cases failed
          exact ⟨_, .broken member⟩
      | ok event =>
          rw [eventLoop]
          refine (blames_onEvent member).bind fun turn => ?_
          cases turn with
          | next s' => exact ih fun item later => within (List.mem_cons_of_mem _ later)
          | finished commitmentTxid => exact Fallible.failsWith_pure

/-- **Why a ceremony fails** whose intent has been registered. -/
theorem repeats_of_registered (passes : PassesLocalChecks delegate cosignerKp)
    {h : List (Event (interface L))} {e : Error}
    (failed : Interaction.Returns (settleDelegate B info delegate cosignerKp).run h (.error e))
    (registered : .answered (.registerIntent delegate.intent) (.ok intentId) ∈ h) :
    ∃ texts, Repeats B cosignerKp (received h) h texts e := by
  obtain ⟨own, outpoints, inputs⟩ := passes
  have first : ensure (cosignerKp.publicKey == delegate.delegateCosignerPk)
      "cosigner keypair does not match delegate_cosigner_pk" = .ok () :=
    ensure_eq_ok_iff.mpr (by simpa using own)
  rw [settleDelegate, first, inputs] at failed
  obtain ⟨answer, rest, rfl, later⟩ := failed.of_ask
  cases answer with
  | error text =>
      -- the registration has been refused
      obtain ⟨rfl, _⟩ := Interaction.Returns.of_done later
      simp at registered
  | ok registeredId =>
      obtain ⟨answer, rest, rfl, opens⟩ := Interaction.Returns.of_ask later
      cases answer with
      | error text =>
          obtain ⟨rfl, same⟩ := Interaction.Returns.of_done opens
          cases same
          exact ⟨_, .refused (List.mem_of_getLast? rfl) rfl (by simp [purposes])⟩
      | ok stream =>
          obtain ⟨texts, repeats⟩ := blames_eventLoop (List.Subset.refl stream) rest e opens
          refine ⟨texts, repeats.mono ?_ (List.subset_append_right [_, _, _, _] rest)⟩
          exact List.subset_append_left stream (received rest)

end Batch
end ArkadeEscrow
