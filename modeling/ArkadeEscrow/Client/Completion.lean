import ArkadeEscrow.Client.Recovery
import ArkadeEscrow.Reference

/-!
# Whether anything local can fail once the server has accepted

Suppose that the server has answered a submit with a valid co-signature and with each
submitted checkpoint, in some order. Then `submitAndFinalize` still restores the witness
scripts by txid, which indexes the first input record of every submitted checkpoint, and
merges the parties' copies by position. `afterReply` is what it does, and
`finalize_inevitable_iff` says when it cannot fail before the finalize.
-/

set_option autoImplicit false

namespace ArkadeEscrow
namespace Client

open Interaction

variable {B : BitcoinLib} {store : SpendStore} {pending : PendingSpend} {arkTx canonical : Psbt}
  {unsignedCheckpoints : List Psbt} {partyCps : List (List Psbt)} {firstAttempt : Bool}
  {reply : SubmitReply}

/-! ## What is left to do after a reply -/

/-- What `submitAndFinalize` does with restored checkpoints. -/
def afterRestore (B : BitcoinLib) (store : SpendStore) (pending : PendingSpend)
    (arkTx canonical : Psbt) (partyCps : List (List Psbt)) (serverCheckpoints : List Psbt) :
    Action Txid := do
  let submitted := B.txidToString (B.computeTxid arkTx.unsignedTx)
  let recorded := pending.arkTxid
  check (ensure (submitted == recorded)
    s!"submitted ark txid {submitted} differs from recorded {recorded}")
  let finalCheckpoints ← check (mergeAllCheckpointSigs serverCheckpoints partyCps)
  upgradeAndFinalize store (upgradedRecord B pending canonical finalCheckpoints)
    (B.computeTxid arkTx.unsignedTx) finalCheckpoints

/-- What is left to do after a reply with a valid co-signature. -/
def afterReply (B : BitcoinLib) (store : SpendStore) (pending : PendingSpend)
    (arkTx canonical : Psbt) (unsignedCheckpoints : List Psbt) (partyCps : List (List Psbt))
    (reply : SubmitReply) : Program interface (Except Error Txid) :=
  .note (.accepted 0 arkTx reply.signedArkTx canonical)
    (match restoreWitnessScripts B unsignedCheckpoints reply.signedCheckpointTxs with
      | some serverCheckpoints =>
          (afterRestore B store pending arkTx canonical partyCps serverCheckpoints).run
      | none => .abort)

theorem verified_bind {β : Type} {text : String} {own serverSigned : Psbt} {f : Psbt → Action β}
    (accepted : Spend.verifyServerArkTxSig B own serverSigned = .ok canonical) :
    (verified B text own serverSigned >>= f).run =
      .note (.accepted 0 own serverSigned canonical) (f canonical).run := by
  rw [verified, accepted]
  rfl

theorem evolves_afterReply (reply : SubmitReply)
    (accepted : Spend.verifyServerArkTxSig B arkTx reply.signedArkTx = .ok canonical) :
    Evolves (submitAndFinalize B store pending arkTx unsignedCheckpoints partyCps
        firstAttempt).run
      [.sent (.submit arkTx unsignedCheckpoints),
        .answered (.submit arkTx unsignedCheckpoints) (.finished (.ok reply))]
      (.running (afterReply B store pending arkTx canonical unsignedCheckpoints partyCps
        reply)) := by
  have submitted : Evolves (submitInternal B arkTx unsignedCheckpoints).run _ _ :=
    Fallible.Returns.evolves_bind (a := reply) (returns_inContext returns_submit)
  rw [verified_bind accepted] at submitted
  rw [submitAndFinalize, afterReply]
  cases restored : restoreWitnessScripts B unsignedCheckpoints reply.signedCheckpointTxs with
  | none =>
      rw [restored] at submitted
      exact Fallible.evolves_attempt_bind submitted
  | some serverCheckpoints =>
      rw [restored] at submitted
      exact Fallible.evolves_attempt_bind submitted

/-! ## When the finalize is inevitable -/

theorem inevitable_upgradeAndFinalize (arkTxid : Txid) (finalCheckpoints : List Psbt) :
    Inevitable (I := interface) (fun request => request = .finalize arkTxid finalCheckpoints)
      (upgradeAndFinalize store pending arkTxid finalCheckpoints).run := by
  rw [upgradeAndFinalize]
  exact Inevitable.ask (I := interface) fun saved => Inevitable.here _ rfl

/-- The reply returns each submitted checkpoint once, in some order. -/
def ReturnsEach (unsignedCheckpoints : List Psbt) (reply : SubmitReply) : Prop :=
  ∃ ordered, reply.signedCheckpointTxs.Perm ordered ∧
    List.Forall₂ Psbt.SameShape ordered unsignedCheckpoints

/-- A finalize of the ark transaction with the returned checkpoints, each with the
signatures that the server and the parties put at its position. -/
def FinalizesMerged (B : BitcoinLib) (arkTx : Psbt) (partyCps : List (List Psbt))
    (reply : SubmitReply) (request : Ask) : Prop :=
  ∃ finalCheckpoints, request = .finalize (B.computeTxid arkTx.unsignedTx) finalCheckpoints ∧
    finalCheckpoints.length = reply.signedCheckpointTxs.length ∧
    ∀ i cp final, reply.signedCheckpointTxs[i]? = some cp → finalCheckpoints[i]? = some final →
      MergedFrom partyCps i cp final

/-- The finalize is inevitable exactly when the merge succeeds. -/
theorem inevitable_afterReply_iff
    (recorded : pending.arkTxid = B.txidToString (B.computeTxid arkTx.unsignedTx)) :
    Inevitable (FinalizesMerged B arkTx partyCps reply)
        (afterReply B store pending arkTx canonical unsignedCheckpoints partyCps reply) ↔
      ∃ finalCheckpoints, Merges B unsignedCheckpoints partyCps reply finalCheckpoints := by
  constructor
  · intro comes
    cases comes with
    | note _ comes =>
      cases restored : restoreWitnessScripts B unsignedCheckpoints reply.signedCheckpointTxs with
      | none =>
          rw [restored] at comes
          cases comes
      | some serverCheckpoints =>
          rw [restored] at comes
          replace comes : Inevitable _ (afterRestore B store pending arkTx canonical partyCps
            serverCheckpoints).run := comes
          rw [afterRestore] at comes
          obtain ⟨⟨⟩, _, comes⟩ := inevitable_check_bind.mp comes
          obtain ⟨finalCheckpoints, merged, _⟩ := inevitable_check_bind.mp comes
          exact ⟨finalCheckpoints, serverCheckpoints, restored, merged⟩
  · intro parts
    rcases parts with ⟨finalCheckpoints, merges⟩
    have goal : FinalizesMerged B arkTx partyCps reply
        (.finalize (B.computeTxid arkTx.unsignedTx) finalCheckpoints) :=
      ⟨finalCheckpoints, rfl, merges.mergedFrom⟩
    obtain ⟨serverCheckpoints, restored, merged⟩ := merges
    apply Inevitable.note _
    rw [restored]
    show Inevitable _ (afterRestore B store pending arkTx canonical partyCps serverCheckpoints).run
    rw [afterRestore]
    refine inevitable_check_bind.mpr ⟨(), by simp [recorded], ?_⟩
    refine inevitable_check_bind.mpr ⟨finalCheckpoints, merged, ?_⟩
    refine (inevitable_upgradeAndFinalize _ _).mono fun request same => ?_
    rw [same]
    exact goal

/-- **When nothing local can fail after the server has accepted.** For accepted arguments
and a reply that is co-signed and returns each submitted checkpoint once, the finalize of
the merged checkpoints is inevitable, if and only if every submitted checkpoint has an input
record and, unless there are no parties, the reply is in the submitted order. -/
theorem finalize_inevitable_iff
    (valid : validateCheckpoints unsignedCheckpoints partyCps = .ok ())
    (recorded : pending.arkTxid = B.txidToString (B.computeTxid arkTx.unsignedTx))
    (verified : ∃ canonical, Spend.verifyServerArkTxSig B arkTx reply.signedArkTx = .ok canonical)
    (returned : ReturnsEach unsignedCheckpoints reply)
    {rest : Program interface (Except Error Txid)}
    (run : Evolves (submitAndFinalize B store pending arkTx unsignedCheckpoints partyCps
        firstAttempt).run
      [.sent (.submit arkTx unsignedCheckpoints),
        .answered (.submit arkTx unsignedCheckpoints) (.finished (.ok reply))] (.running rest)) :
    Inevitable (FinalizesMerged B arkTx partyCps reply) rest ↔
      (∀ cp ∈ unsignedCheckpoints, cp.inputs ≠ []) ∧
      (partyCps = [] ∨
        List.Forall₂ Psbt.SameShape reply.signedCheckpointTxs unsignedCheckpoints) := by
  obtain ⟨canonical, accepted⟩ := verified
  obtain ⟨ordered, permuted, shapes⟩ := returned
  obtain ⟨some, parties⟩ := validateCheckpoints_eq_ok_iff.mp valid
  cases run.unique (evolves_afterReply reply accepted)
  rw [inevitable_afterReply_iff recorded]
  constructor
  · intro parts
    rcases parts with ⟨finalCheckpoints, merges⟩
    obtain ⟨submitted, matched⟩ := merges.positional
    refine ⟨submitted, ?_⟩
    cases partyCps with
    | nil => exact .inl rfl
    | cons copies others =>
        rcases matched with empty | matched
        · rw [empty, List.nil_perm] at permuted
          subst permuted
          exact absurd (List.forall₂_nil_left_iff.mp shapes) some
        · exact .inr (Psbt.forall₂_sameShape_trans (matched copies List.mem_cons_self)
            (parties copies List.mem_cons_self))
  · intro parts
    rcases parts with ⟨submitted, order⟩
    refine exists_merges submitted ?_ fun copies member => ?_
    · intro cp member
      obtain ⟨sent, listed, same⟩ := Results.exists_of_mem_left shapes (permuted.mem_iff.mp member)
      have inputs := submitted sent listed
      rw [← List.length_pos_iff] at inputs ⊢
      exact same.2 ▸ inputs
    · rcases order with rfl | order
      · cases member
      · exact Psbt.forall₂_sameShape_trans order
          (Psbt.forall₂_sameShape_symm (parties copies member))

/-- The record of a spend of two checkpoints. -/
noncomputable def pairRecord : PendingSpend :=
  freshRecord BitcoinLib.reference "escrow" (Sample.arkTx Sample.pair) Sample.pair [Sample.pair]
    "token"

/-- The server's reply when it returns these checkpoints. -/
noncomputable def pairReply (checkpoints : List Psbt) : SubmitReply :=
  ⟨Sample.cosigned Sample.pair, checkpoints⟩

/-- Two checkpoints that come back in the submitted order. -/
theorem finalize_inevitable_sample :
    ∃ rest, Evolves (submitAndFinalize BitcoinLib.reference ⟨true, true⟩ pairRecord
        (Sample.arkTx Sample.pair) Sample.pair [Sample.pair] true).run
      [.sent (.submit (Sample.arkTx Sample.pair) Sample.pair),
        .answered (.submit (Sample.arkTx Sample.pair) Sample.pair)
          (.finished (.ok (pairReply Sample.pair)))] (.running rest) ∧
      Inevitable (FinalizesMerged BitcoinLib.reference (Sample.arkTx Sample.pair) [Sample.pair]
        (pairReply Sample.pair)) rest := by
  have verdict := Sample.verified_cosigned (Sample.checkpoint 1 ∅) [Sample.checkpoint 2 ∅]
  have run : Evolves (submitAndFinalize BitcoinLib.reference ⟨true, true⟩ pairRecord
      (Sample.arkTx Sample.pair) Sample.pair [Sample.pair] true).run _ _ :=
    evolves_afterReply (pairReply Sample.pair) verdict
  have valid : validateCheckpoints Sample.pair [Sample.pair] = .ok () :=
    validateCheckpoints_self (List.cons_ne_nil _ _)
  have same := Psbt.forall₂_sameShape_refl Sample.pair
  refine ⟨_, run, (finalize_inevitable_iff valid rfl ⟨_, verdict⟩ ⟨_, .refl _, same⟩
    run).mpr ⟨?_, .inr same⟩⟩
  simp [Sample.pair, Sample.checkpoint]

/-- Two checkpoints that come back in the other order: the parties' copies do not match. -/
theorem finalize_not_always_inevitable :
    ¬ ∀ (B : BitcoinLib) (store : SpendStore) pending arkTx unsignedCheckpoints partyCps
        firstAttempt reply rest,
      validateCheckpoints unsignedCheckpoints partyCps = .ok () →
      pending.arkTxid = B.txidToString (B.computeTxid arkTx.unsignedTx) →
      (∃ canonical, Spend.verifyServerArkTxSig B arkTx reply.signedArkTx = .ok canonical) →
      ReturnsEach unsignedCheckpoints reply →
      Evolves (submitAndFinalize B store pending arkTx unsignedCheckpoints partyCps
          firstAttempt).run
        [.sent (.submit arkTx unsignedCheckpoints),
          .answered (.submit arkTx unsignedCheckpoints) (.finished (.ok reply))] (.running rest) →
      Inevitable (FinalizesMerged B arkTx partyCps reply) rest := by
  intro always
  let swapped := pairReply [Sample.checkpoint 2 ∅, Sample.checkpoint 1 ∅]
  have verdict := Sample.verified_cosigned (Sample.checkpoint 1 ∅) [Sample.checkpoint 2 ∅]
  have returned : ReturnsEach Sample.pair swapped :=
    ⟨Sample.pair, .swap _ _ [], Psbt.forall₂_sameShape_refl _⟩
  have run : Evolves (submitAndFinalize BitcoinLib.reference ⟨true, true⟩ pairRecord
      (Sample.arkTx Sample.pair) Sample.pair [Sample.pair] true).run _ _ :=
    evolves_afterReply swapped verdict
  have comes := always BitcoinLib.reference ⟨true, true⟩ pairRecord (Sample.arkTx Sample.pair)
    Sample.pair [Sample.pair] true swapped _ (validateCheckpoints_self (List.cons_ne_nil _ _))
    rfl ⟨_, verdict⟩ returned run
  obtain ⟨finalCheckpoints, merged⟩ := (inevitable_afterReply_iff rfl).mp comes
  rcases merged.positional.2 with empty | shapes
  · cases empty
  · have matched := shapes _ (List.mem_singleton_self _)
    simp [Psbt.SameShape, swapped, pairReply, Sample.pair, Sample.checkpoint] at matched

end Client
end ArkadeEscrow
