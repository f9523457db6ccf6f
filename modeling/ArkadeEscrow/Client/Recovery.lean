import ArkadeEscrow.Client.Attempt
import ArkadeEscrow.Reference

/-!
# Whether a retry can finalize the upgraded record

Once a reply has passed the checks of `submitAndFinalize`, the record moves to stage
`submitted`, and a retry of that record only has to finalize. Before it does, the retry
decodes the recorded evidence, verifies it again, and checks that the recorded checkpoints
are inputs of the ark transaction. The first two succeed on what was recorded. The third has
no counterpart on the way to the record: it depends on the list that the server returned
(`submitted_records_resumable_iff`).
-/

set_option autoImplicit false

namespace ArkadeEscrow
namespace Client

open Interaction

variable {B : BitcoinLib} {store : SpendStore}

/-- A retry of the record gets to a finalize, whatever is answered on the way. -/
def Resumable (B : BitcoinLib) (store : SpendStore) (pending : PendingSpend) : Prop :=
  ∃ arkTxid finalCheckpoints,
    Inevitable (I := interface) (fun request => request = .finalize arkTxid finalCheckpoints)
      (resumeRecorded B store pending).run

/-! ## Checks on the way to an inevitable request -/

theorem inevitable_check_bind {goal : Ask → Prop} {α β : Type} {r : Except Error α}
    {f : α → Action β} :
    Inevitable goal (check r >>= f).run ↔ ∃ a, r = .ok a ∧ Inevitable goal (f a).run := by
  cases r with
  | error e =>
      constructor
      · intro comes
        have failed : Inevitable (I := interface) goal (.done (Except.error e : Except Error β)) :=
          comes
        cases failed
      · rintro ⟨_, ⟨⟩, _⟩
  | ok a =>
      constructor
      · exact fun comes => ⟨a, rfl, comes⟩
      · rintro ⟨_, ⟨⟩, comes⟩
        exact comes

theorem inevitable_verified_bind {goal : Ask → Prop} {β : Type} {text : String}
    {own serverSigned : Psbt} {f : Psbt → Action β} :
    Inevitable goal (verified B text own serverSigned >>= f).run ↔
      ∃ canonical, Spend.verifyServerArkTxSig B own serverSigned = .ok canonical ∧
        Inevitable goal (f canonical).run := by
  rw [verified, bind_assoc, inevitable_check_bind]
  constructor
  · intro parts
    rcases parts with ⟨canonical, accepted, comes⟩
    refine ⟨canonical, withContext_eq_ok_iff.mp accepted, ?_⟩
    cases (comes : Inevitable (I := interface) goal (.note _ (f canonical).run)) with
    | note _ comes => exact comes
  · intro parts
    rcases parts with ⟨canonical, accepted, comes⟩
    exact ⟨canonical, withContext_eq_ok_iff.mpr accepted, Inevitable.note _ comes⟩

theorem inevitable_finalizeAndRecord (pending : PendingSpend) (arkTxid : Txid)
    (finalCheckpoints : List Psbt) :
    Inevitable (I := interface) (fun request => request = .finalize arkTxid finalCheckpoints)
      (finalizeAndRecord store pending arkTxid finalCheckpoints).run := by
  rw [finalizeAndRecord]
  exact Inevitable.here (I := interface) _ rfl

/-- **A record at stage `submitted` can be resumed exactly when it passes the checks.** -/
theorem resumable_iff {pending : PendingSpend} (stage : pending.stage = .submitted) :
    Resumable B store pending ↔ ∃ arkTxid evidence canonical finalCheckpoints,
      Finalizable B pending arkTxid evidence canonical finalCheckpoints := by
  constructor
  · intro parts
    rcases parts with ⟨goalTxid, goalCheckpoints, comes⟩
    rw [resumeRecorded] at comes
    obtain ⟨arkTxid, parsed, comes⟩ := inevitable_check_bind.mp comes
    rw [stage] at comes
    replace comes : Inevitable _ (resumeSubmitted B store pending arkTxid).run := comes
    rw [resumeSubmitted] at comes
    obtain ⟨evidence, decoded, comes⟩ := inevitable_check_bind.mp comes
    obtain ⟨⟨⟩, sameTxid, comes⟩ := inevitable_check_bind.mp comes
    obtain ⟨canonical, verdict, comes⟩ := inevitable_verified_bind.mp comes
    obtain ⟨finalCheckpoints, checkpoints, comes⟩ := inevitable_check_bind.mp comes
    obtain ⟨⟨⟩, spent, _⟩ := inevitable_check_bind.mp comes
    refine ⟨arkTxid, evidence, canonical, finalCheckpoints, ?_⟩
    exact
      { stage := stage
        parsed := by simpa using parsed
        decoded := decoded
        sameTxid := by simpa using sameTxid
        verified := verdict
        checkpoints := checkpoints
        spent := by simpa using spent }
  · intro parts
    rcases parts with ⟨arkTxid, evidence, canonical, finalCheckpoints, passes⟩
    refine ⟨arkTxid, finalCheckpoints, ?_⟩
    rw [resumeRecorded]
    refine inevitable_check_bind.mpr ⟨arkTxid, by simpa using passes.parsed, ?_⟩
    rw [stage]
    show Inevitable _ (resumeSubmitted B store pending arkTxid).run
    rw [resumeSubmitted]
    refine inevitable_check_bind.mpr ⟨evidence, passes.decoded, ?_⟩
    refine inevitable_check_bind.mpr ⟨(), by simpa using passes.sameTxid, ?_⟩
    refine inevitable_verified_bind.mpr ⟨canonical, passes.verified, ?_⟩
    refine inevitable_check_bind.mpr ⟨finalCheckpoints, passes.checkpoints, ?_⟩
    refine inevitable_check_bind.mpr ⟨(), by simpa using passes.spent, ?_⟩
    exact inevitable_finalizeAndRecord ..

/-! ## The upgraded record -/

theorem checkpointsSpentBy_congr (tx : Transaction) {cps cps' : List Psbt}
    (same : cps.map Psbt.unsignedTx = cps'.map Psbt.unsignedTx) :
    checkpointsSpentBy B tx cps = checkpointsSpentBy B tx cps' := by
  have factored (list : List Psbt) : checkpointsSpentBy B tx list =
      (!(list.map Psbt.unsignedTx).isEmpty && (list.map Psbt.unsignedTx).all fun cpTx =>
        tx.input.any fun i => i.previousOutput.txid == B.computeTxid cpTx) := by
    simp [checkpointsSpentBy, List.all_map, Function.comp_def]
  rw [factored, factored, same]

/-- **All checks but the last succeed on the upgraded record**: the evidence is there, is the
right transaction and verifies. -/
theorem resumable_upgradedRecord_iff (trips : B.PsbtRoundTrips) (txids : B.TxidRoundTrips)
    {pending : PendingSpend} {arkTx canonical : Psbt} {unsignedCheckpoints : List Psbt}
    {partyCps : List (List Psbt)} {reply : SubmitReply} {finalCheckpoints : List Psbt}
    (wellFormed : arkTx.WellFormed) (replied : reply.WellFormed)
    (passes : Passes B pending arkTx unsignedCheckpoints partyCps reply canonical
      finalCheckpoints) :
    Resumable B store (upgradedRecord B pending canonical finalCheckpoints) ↔
      checkpointsSpentBy B arkTx.unsignedTx reply.signedCheckpointTxs = true := by
  have tx := Spend.verifyServerArkTxSig_unsignedTx passes.verified
  have decoded (arkTxid : Txid) :
      decodeEvidence B (upgradedRecord B pending canonical finalCheckpoints) arkTxid =
        .ok canonical := by
    rw [decodeEvidence, withContext_eq_ok_iff]
    exact trips canonical (Spend.verifyServerArkTxSig_wellFormed passes.verified wellFormed)
  have checkpoints := decodeCheckpoints_map trips "decoding persisted checkpoint PSBTs"
    (passes.merged.wellFormed replied)
  have spent := checkpointsSpentBy_congr (B := B) arkTx.unsignedTx
    passes.merged.map_unsignedTx
  rw [resumable_iff rfl, ← spent]
  constructor
  · intro parts
    rcases parts with ⟨arkTxid, evidence, canonical', finalCheckpoints', finalizable⟩
    obtain rfl := Except.ok.inj ((decoded arkTxid).symm.trans finalizable.decoded)
    obtain rfl := Except.ok.inj (checkpoints.symm.trans finalizable.checkpoints)
    rw [← tx]
    exact finalizable.spent
  · intro linked
    refine ⟨B.computeTxid arkTx.unsignedTx, canonical, canonical, finalCheckpoints, ?_⟩
    exact
      { stage := rfl
        parsed := passes.sameTxid ▸ txids _
        decoded := decoded _
        sameTxid := by rw [tx]
        verified := Spend.verifyServerArkTxSig_self passes.verified
        checkpoints := checkpoints
        spent := by rw [tx, linked] }

/-- Every record that a call of the attempt saves at stage `submitted` can be resumed. -/
def SubmittedRecordsResumable (B : BitcoinLib) (store : SpendStore) (id : String) (arkTx : Psbt)
    (unsignedCheckpoints : List Psbt) (partyCps : List (List Psbt))
    (outcome : Outcome SubmitReply) : Prop :=
  ∀ (run : CallRun B store) (found : Except Error (Option PendingSpend)),
    Attempt B id arkTx unsignedCheckpoints partyCps outcome run.call found →
    Sees run.call run.events found outcome →
    ∀ spend, .sent (.save spend) ∈ run.events → spend.stage = .submitted →
      Resumable B store spend

/-- The fresh call of the attempt can save a record, whose checkpoints then have to be
spent. -/
theorem SubmittedRecordsResumable.spent (trips : B.PsbtRoundTrips) (txids : B.TxidRoundTrips)
    {id : String} {arkTx : Psbt} {unsignedCheckpoints : List Psbt} {partyCps : List (List Psbt)}
    (wellFormed : Call.WellFormed (.spend id arkTx unsignedCheckpoints partyCps))
    (valid : validateCheckpoints unsignedCheckpoints partyCps = .ok ()) {reply : SubmitReply}
    (replied : reply.WellFormed)
    (resumable : SubmittedRecordsResumable B store id arkTx unsignedCheckpoints partyCps
      (.finished (.ok reply))) {canonical : Psbt} {finalCheckpoints : List Psbt}
    (verdict : Spend.verifyServerArkTxSig B arkTx reply.signedArkTx = .ok canonical)
    (merged : Merges B unsignedCheckpoints partyCps reply finalCheckpoints) :
    checkpointsSpentBy B arkTx.unsignedTx reply.signedCheckpointTxs = true := by
  let token := PendingSpend.newToken (Vector.replicate 16 0)
  have passes : Passes B (freshRecord B id arkTx unsignedCheckpoints partyCps token) arkTx
      unsignedCheckpoints partyCps reply canonical finalCheckpoints :=
    passes_freshRecord verdict merged
  have upgrades := Upgrades.intro (Source.first valid (Vector.replicate 16 0)) passes
  obtain ⟨before, run, sees⟩ := upgrades.emits store
  have saved := resumable ⟨_, _, run⟩ _ .first sees _
    (List.mem_append_right _ List.mem_cons_self) rfl
  exact (resumable_upgradedRecord_iff trips txids wellFormed.1 replied passes).mp saved

/-- **When the two ways to a finalize agree.** For well-formed arguments that are accepted and a
well-formed answer to the submit, every record that a call of the attempt saves at stage
`submitted` can be resumed, if and only if a reply that is co-signed and merges returns a non-empty
list of checkpoints that inputs of the ark transaction spend. -/
theorem submitted_records_resumable_iff (trips : B.PsbtRoundTrips) (txids : B.TxidRoundTrips)
    {id : String} {arkTx : Psbt} {unsignedCheckpoints : List Psbt} {partyCps : List (List Psbt)}
    (wellFormed : Call.WellFormed (.spend id arkTx unsignedCheckpoints partyCps))
    (valid : validateCheckpoints unsignedCheckpoints partyCps = .ok ())
    {outcome : Outcome SubmitReply}
    (replied : ∀ reply, outcome = .finished (.ok reply) → reply.WellFormed) :
    SubmittedRecordsResumable B store id arkTx unsignedCheckpoints partyCps outcome ↔
      ∀ reply, outcome = .finished (.ok reply) →
        (∃ canonical, Spend.verifyServerArkTxSig B arkTx reply.signedArkTx = .ok canonical) →
        (∃ finalCheckpoints, Merges B unsignedCheckpoints partyCps reply finalCheckpoints) →
        checkpointsSpentBy B arkTx.unsignedTx reply.signedCheckpointTxs = true := by
  constructor
  · rintro resumable reply rfl ⟨canonical, verdict⟩ ⟨finalCheckpoints, merged⟩
    exact resumable.spent trips txids wellFormed valid (replied reply rfl) verdict merged
  · intro linked run found attempt sees spend member stage
    obtain ⟨before, after, split⟩ := List.append_of_mem member
    have emits := run.emits
    rw [split] at emits sees
    obtain ⟨reply, finalCheckpoints, answer, upgrades⟩ := upgrades_of_sent emits sees stage
    cases upgrades with
    | intro source passes =>
        obtain ⟨⟨rfl, rfl, rfl⟩, _⟩ := attempt.source_eq trips wellFormed source
        apply (resumable_upgradedRecord_iff trips txids wellFormed.1 (replied reply answer)
          passes).mpr
        exact linked reply answer ⟨_, passes.verified⟩ ⟨_, passes.merged⟩

/-- A reply that returns the submitted checkpoint. -/
theorem submitted_records_resumable_sample :
    checkpointsSpentBy BitcoinLib.reference (Sample.arkTx [Sample.checkpoint 1 ∅]).unsignedTx
        [Sample.checkpoint 1 ∅] = true ∧
      SubmittedRecordsResumable BitcoinLib.reference ⟨true, true⟩ "escrow"
        (Sample.arkTx [Sample.checkpoint 1 ∅]) [Sample.checkpoint 1 ∅] [[Sample.checkpoint 1 ∅]]
        (.finished (.ok ⟨Sample.cosigned [Sample.checkpoint 1 ∅], [Sample.checkpoint 1 ∅]⟩)) := by
  have spent : checkpointsSpentBy BitcoinLib.reference
      (Sample.arkTx [Sample.checkpoint 1 ∅]).unsignedTx [Sample.checkpoint 1 ∅] = true := by
    simp [checkpointsSpentBy, Sample.arkTx, Sample.txIn]
  have valid : validateCheckpoints [Sample.checkpoint 1 ∅] [[Sample.checkpoint 1 ∅]] = .ok () :=
    validateCheckpoints_self (List.cons_ne_nil _ _)
  have wellFormed : Call.WellFormed (.spend "escrow" (Sample.arkTx [Sample.checkpoint 1 ∅])
      [Sample.checkpoint 1 ∅] [[Sample.checkpoint 1 ∅]]) := by simp [Call.WellFormed]
  refine ⟨spent, (submitted_records_resumable_iff BitcoinLib.psbtRoundTrips_reference
    BitcoinLib.txidRoundTrips_reference wellFormed valid ?_).mpr ?_⟩
  · rintro reply ⟨⟩
    exact wellFormed.2.1
  · rintro reply ⟨⟩ _ _
    exact spent

/-- A co-signed reply without checkpoints: the record is saved, and no retry can finalize
it. -/
theorem submitted_records_not_always_resumable :
    ¬ ∀ (B : BitcoinLib) (store : SpendStore), B.PsbtRoundTrips → B.TxidRoundTrips →
      ∀ id arkTx unsignedCheckpoints partyCps,
        Call.WellFormed (.spend id arkTx unsignedCheckpoints partyCps) →
        validateCheckpoints unsignedCheckpoints partyCps = .ok () → ∀ outcome,
          (∀ reply, outcome = .finished (.ok reply) → reply.WellFormed) →
          SubmittedRecordsResumable B store id arkTx unsignedCheckpoints partyCps outcome := by
  intro always
  let cp := Sample.checkpoint 1 ∅
  have valid : validateCheckpoints [cp] [[cp]] = .ok () :=
    validateCheckpoints_self (List.cons_ne_nil _ _)
  have wellFormed : Call.WellFormed (.spend "escrow" (Sample.arkTx [cp]) [cp] [[cp]]) := by
    simp [Call.WellFormed, cp]
  have replied : SubmitReply.WellFormed ⟨Sample.cosigned [cp], []⟩ := by
    rintro _ ⟨⟩
  have resumable := always BitcoinLib.reference ⟨true, true⟩ BitcoinLib.psbtRoundTrips_reference
    BitcoinLib.txidRoundTrips_reference "escrow" (Sample.arkTx [cp]) [cp] [[cp]] wellFormed valid
    (.finished (.ok ⟨Sample.cosigned [cp], []⟩)) (by rintro _ ⟨⟩; exact replied)
  have merged : Merges BitcoinLib.reference [cp] [[cp]] ⟨Sample.cosigned [cp], []⟩ [] :=
    merges_nil (by simp [cp, Sample.checkpoint]) _
  have spent := resumable.spent BitcoinLib.psbtRoundTrips_reference
    BitcoinLib.txidRoundTrips_reference wellFormed valid replied (Sample.verified_cosigned cp [])
    merged
  cases spent

end Client
end ArkadeEscrow
