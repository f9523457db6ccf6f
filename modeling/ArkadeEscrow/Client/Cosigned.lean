import ArkadeEscrow.Client.Stranded
import ArkadeEscrow.Signing

/-!
# Spends that the server co-signs

The parties have signed an ark transaction and its checkpoints. A server that is fair signs them
too, and perhaps strips the witness scripts of the checkpoints. Then the merge of its reply gives
back the checkpoints that were submitted, with the signatures of the server and of all parties
(`CosignedBy.exists_merges`).
-/

set_option autoImplicit false

namespace ArkadeEscrow
namespace Client

open Interaction

variable {B : BitcoinLib} {S : SigningLib} {cps returned : List Psbt}

/-! ## Witness scripts -/

/-- The server may change the witness script of a checkpoint, or strip it. -/
def Rescripted (cp returned : Psbt) : Prop := ∃ ws, setFirstWitnessScript ws cp = some returned

theorem Rescripted.unsignedTx {cp returned : Psbt} (rescripted : Rescripted cp returned) :
    returned.unsignedTx = cp.unsignedTx := by
  obtain ⟨ws, changed⟩ := rescripted
  rw [setFirstWitnessScript] at changed
  split at changed
  · cases changed
  · obtain rfl := Option.some.inj changed
    rfl

/-- The witness script of the submitted checkpoint is put back. -/
theorem Rescripted.restored {cp signed returned : Psbt} (rescripted : Rescripted signed returned)
    (rest : signed.stripSigs = cp.stripSigs) {input : PsbtInput} {others : List PsbtInput}
    (inputs : cp.inputs = input :: others) :
    setFirstWitnessScript input.witnessScript returned = some signed := by
  obtain ⟨ws, changed⟩ := rescripted
  obtain ⟨unsignedTx, signedInputs⟩ := signed
  cases signedInputs with
  | nil => cases changed
  | cons signedInput signedOthers =>
      obtain rfl := Option.some.inj changed
      have stripped := congrArg (fun psbt : Psbt => psbt.inputs.head?.map (·.witnessScript)) rest
      have script : signedInput.witnessScript = input.witnessScript := by
        simpa [Psbt.stripSigs, PsbtInput.stripSigs, inputs] using stripped
      rw [setFirstWitnessScript, ← script]

/-- The script of a checkpoint is found under its txid. -/
theorem getElem?_witnessScripts {scripts : BTreeMap Txid (Option ScriptBuf)}
    (indexed : witnessScripts B cps = some scripts)
    (distinct : (cps.map fun cp => B.computeTxid cp.unsignedTx).Nodup) {cp : Psbt}
    (member : cp ∈ cps) {input : PsbtInput} {others : List PsbtInput}
    (inputs : cp.inputs = input :: others) :
    scripts[B.computeTxid cp.unsignedTx]? = some input.witnessScript := by
  obtain ⟨entries, listed, same⟩ := Option.bind_eq_some_iff.mp indexed
  obtain rfl := Option.some.inj same
  have listed := Results.mapM_eq_some_iff.mp listed
  have keys : cps.map (fun cp => B.computeTxid cp.unsignedTx) = entries.map Prod.fst := by
    refine Results.map_eq_map_of_forall₂ listed fun cp entry here => ?_
    obtain ⟨_, _, rfl⟩ := Option.map_eq_some_iff.mp here
    rfl
  have apart : entries.Pairwise fun a b => ¬compare a.1 b.1 = .eq := by
    rw [keys, List.Nodup, List.pairwise_map] at distinct
    exact distinct.imp fun other same => other (Std.LawfulEqOrd.eq_of_compare same)
  obtain ⟨entry, listed, here⟩ := Results.exists_of_mem_left listed member
  rw [witnessScriptEntry, inputs] at here
  obtain rfl := Option.some.inj here
  exact Std.ExtTreeMap.getElem?_ofList_of_mem Std.ReflOrd.compare_self apart listed

/-- **Restoring the witness scripts** gives back what the server has signed, if the checkpoints
can be told apart by their txids. -/
theorem restoreWitnessScripts_of_rescripted (records : ∀ cp ∈ cps, cp.inputs ≠ [])
    (distinct : (cps.map fun cp => B.computeTxid cp.unsignedTx).Nodup) {signed : Psbt → Psbt}
    (rest : ∀ cp ∈ cps, (signed cp).stripSigs = cp.stripSigs)
    (rescripted : List.Forall₂ (fun cp => Rescripted (signed cp)) cps returned) :
    restoreWitnessScripts B cps returned = some (cps.map signed) := by
  obtain ⟨scripts, indexed⟩ := exists_witnessScripts_iff (B := B).mpr records
  refine Option.bind_eq_some_iff.mpr ⟨scripts, indexed, Results.mapM_eq_some_iff.mpr ?_⟩
  have both := (List.forall₂_and_left _ _).mpr ⟨fun cp member => member, rescripted⟩
  refine List.forall₂_map_right_iff.mpr (List.Forall₂.flip (both.imp ?_))
  rintro cp returned ⟨member, rescripted⟩
  obtain ⟨input, others, inputs⟩ := List.exists_cons_of_ne_nil (records cp member)
  have sameTx : returned.unsignedTx = cp.unsignedTx :=
    rescripted.unsignedTx.trans (Psbt.unsignedTx_of_stripSigs (rest cp member))
  show restoreWitnessScript B scripts returned = some (signed cp)
  rw [restoreWitnessScript, sameTx, getElem?_witnessScripts indexed distinct member inputs]
  exact rescripted.restored (rest cp member) inputs

/-! ## The reply -/

variable (S) in
/-- The reply of a server that signs what is submitted. -/
structure CosignedBy (server : Keypair) (arkTx : Psbt) (cps : List Psbt) (reply : SubmitReply) :
    Prop where
  arkTx : Spend.signArkTx S arkTx server = .ok reply.signedArkTx
  checkpoints : List.Forall₂ (fun cp returned => ∃ signed,
    Spend.signCheckpoint S cp server = .ok signed ∧ Rescripted signed returned)
    cps reply.signedCheckpointTxs

variable {message : Psbt → Message × TapLeafHash} {signers : Set Keypair} {server : Keypair}
variable {parties : List Keypair} {arkTx : Psbt} {reply : SubmitReply}

variable (S message) in
/-- A copy of a checkpoint, signed for its own message. -/
def copyBy (keypair : Keypair) (cp : Psbt) : Psbt :=
  signedCheckpoint S cp (message cp).1 (message cp).2 keypair

variable (S message signers) in
/-- These keypairs are going to sign a checkpoint. -/
def Awaits (cp : Psbt) : Prop :=
  UnsignedCheckpoint S cp (message cp).1 (message cp).2 signers

theorem sameShape_copyBy (keypair : Keypair) (cp : Psbt) :
    (copyBy S message keypair cp).SameShape cp :=
  ⟨rfl, Psbt.insertSig_inputs_length ..⟩

theorem copiesAt_copyBy {i : Nat} (bound : i < cps.length) :
    copiesAt (parties.map fun keypair => cps.map (copyBy S message keypair)) i =
      parties.map fun keypair => copyBy S message keypair cps[i] := by
  rw [copiesAt, List.filterMap_map, ← List.filterMap_eq_map]
  refine List.filterMap_congr fun keypair _ => ?_
  simp [bound]

/-- The copies of the parties are accepted. -/
theorem validateCheckpoints_copyBy (some : cps ≠ []) :
    validateCheckpoints cps
      (parties.map fun keypair => cps.map (copyBy S message keypair)) = .ok () := by
  refine validateCheckpoints_eq_ok_iff.mpr ⟨some, fun copies member => ?_⟩
  obtain ⟨keypair, _, rfl⟩ := List.mem_map.mp member
  exact List.forall₂_map_left_iff.mpr
    (List.forall₂_same.mpr fun cp _ => sameShape_copyBy keypair cp)

/-- **The merge of a co-signed reply** is what was submitted, with the signatures of the server
and of all parties. -/
theorem CosignedBy.exists_merges (cosigned : CosignedBy S server arkTx cps reply)
    (awaits : ∀ cp ∈ cps, Awaits S message signers cp)
    (distinct : (cps.map fun cp => B.computeTxid cp.unsignedTx).Nodup)
    (signer : server ∈ signers) (party : ∀ keypair ∈ parties, keypair ∈ signers) :
    ∃ finalCheckpoints, Merges B cps
        (parties.map fun keypair => cps.map (copyBy S message keypair)) reply finalCheckpoints ∧
      List.Forall₂ (fun cp final => SignedBy S cp (message cp).1 (message cp).2
        (insert server {keypair | keypair ∈ parties}) final) cps finalCheckpoints := by
  have returned : List.Forall₂ (fun cp => Rescripted (copyBy S message server cp)) cps
      reply.signedCheckpointTxs := by
    have both := (List.forall₂_and_left _ _).mpr ⟨awaits, cosigned.checkpoints⟩
    refine both.imp ?_
    rintro cp returned ⟨unsigned, signed, done, rescripted⟩
    cases (unsigned.sign server).symm.trans done
    exact rescripted
  have restored := restoreWitnessScripts_of_rescripted (fun cp member => (awaits cp member).records)
    distinct (fun cp _ => Psbt.stripSigs_insertSig ..) returned
  refine ⟨_, ⟨_, restored, mergeAllCheckpointSigs_eq_ok_iff.mpr ⟨.inr ?_, rfl⟩⟩, ?_⟩
  · intro copies member
    obtain ⟨keypair, _, rfl⟩ := List.mem_map.mp member
    refine List.forall₂_map_left_iff.mpr (List.forall₂_map_right_iff.mpr ?_)
    exact List.forall₂_same.mpr fun cp _ =>
      (sameShape_copyBy server cp).trans (sameShape_copyBy keypair cp).symm
  · refine List.forall₂_iff_get.mpr ⟨by simp, fun i bound _ => ?_⟩
    have unsigned := awaits cps[i] (List.getElem_mem bound)
    have merged := unsigned.mergeCopies (fun keypair member => unsigned.signedBy member) party
      (unsigned.signedBy signer) (Set.singleton_subset_iff.mpr signer)
    simp only [List.get_eq_getElem, List.getElem_mapIdx, List.getElem_map, copiesAt_copyBy bound]
    exact merged

/-! ## The call -/

/-- What is sent to the server. -/
def messages (events : History) : List Ask := (requests events).filter Ask.isMessage

theorem messages_append (events events' : History) :
    messages (events ++ events') = messages events ++ messages events' := by
  simp [messages, requests]

theorem messages_markTrace (store : SpendStore) (existing spend : PendingSpend) :
    messages (markTrace store existing spend) = [] := by
  rw [markTrace]
  split <;> rfl

/-- **A spend that is accepted finishes with two messages.** Only the second one has signatures
of checkpoints. -/
theorem Submission.runIn_accepted (store : SpendStore) (S : Submission)
    (valid : validateCheckpoints S.unsignedCheckpoints S.partyCps = .ok ()) {reply : SubmitReply}
    (answer : S.outcome = .finished (.ok reply)) {canonical : Psbt} {finalCheckpoints : List Psbt}
    (verdict : Spend.verifyServerArkTxSig B S.arkTx reply.signedArkTx = .ok canonical)
    (merged : Merges B S.unsignedCheckpoints S.partyCps reply finalCheckpoints) :
    ∃ events, S.straight B store (.finished (.ok ())) =
        ⟨events, some (.ok (some (B.computeTxid S.arkTx.unsignedTx))),
          some (finalizedRecord (S.upgraded B canonical finalCheckpoints))⟩ ∧
      messages events = [.submit S.arkTx S.unsignedCheckpoints,
        .finalize (B.computeTxid S.arkTx.unsignedTx) finalCheckpoints] := by
  have passes : Passes B (S.firstRecord B) S.arkTx S.unsignedCheckpoints S.partyCps reply canonical
    finalCheckpoints := passes_freshRecord verdict merged
  have run : Returns (S.call.program B store) _ _ :=
    returns_call_fresh S.bytes valid (returns_submitAndFinalize passes)
  have own : (S.upgraded B canonical finalCheckpoints).id = S.id := rfl
  have follows := follows_append.mpr ⟨_, follows_fresh B S (.finished (.ok ())),
    follows_append.mpr ⟨_, follows_submit (.finished (.ok ())) answer canonical _,
      Submission.follows_finish store own (B.computeTxid S.arkTx.unsignedTx) finalCheckpoints _⟩⟩
  refine ⟨_, run.runIn_eq follows, ?_⟩
  simp only [messages_append, finishTrace, messages_markTrace]
  rfl

end Client
end ArkadeEscrow
