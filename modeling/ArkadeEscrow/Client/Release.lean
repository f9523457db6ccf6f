import ArkadeEscrow.Client.Commitment
import ArkadeEscrow.Client.Merge
import ArkadeEscrow.Client.Traces

/-!
# Which checkpoints a finalize releases

`verify_server_ark_tx_sig` checks the server's signature on input 0 of the ark transaction.
A fresh call and a resubmission finalize whatever checkpoints the reply held, and a resumed
finalization asks of the recorded ones only that some input spends them. So a released
checkpoint is spent by a verified input exactly when input 0 spends it, and
`released_checkpoints_paid_out_iff` says for which replies and records that is so.
-/

set_option autoImplicit false

namespace ArkadeEscrow
namespace Client

open Interaction

/-- The input at the index spends an output of the checkpoint. -/
def SpendsCheckpoint (B : BitcoinLib) (tx : Transaction) (index : Nat) (cp : Psbt) : Prop :=
  ∃ input, tx.input[index]? = some input ∧
    input.previousOutput.txid = B.computeTxid cp.unsignedTx

/-- The server's signature on the input at the index has been verified: the run says so, and the
copy that was accepted carries it. -/
def InputVerified (B : BitcoinLib) (h : History) (arkTx : Psbt) (arkTxid : Txid) (index : Nat) :
    Prop :=
  ∃ serverSigned canonical, .noted (.accepted index arkTx serverSigned canonical) ∈ h ∧
    Spend.verifyServerArkTxSig B arkTx serverSigned = .ok canonical ∧
    B.computeTxid serverSigned.unsignedTx = arkTxid ∧ ServerSigns B arkTx serverSigned index

/-- Each checkpoint of a finalize is spent by a verified input of the ark transaction. -/
def CheckpointsPaidOut (B : BitcoinLib) (h : History) : Ask → Prop
  | .finalize arkTxid finalCheckpoints => ∀ cp ∈ finalCheckpoints, ∃ arkTx index,
      InputVerified B h arkTx arkTxid index ∧ SpendsCheckpoint B arkTx.unsignedTx index cp
  | _ => True

/-- If the reply passes the checks, input 0 spends every checkpoint in it. -/
def LinkedReply (B : BitcoinLib) (call : Call) (found : Except Error (Option PendingSpend))
    (reply : SubmitReply) : Prop :=
  ∀ pending arkTx unsignedCheckpoints partyCps canonical finalCheckpoints,
    Source B call found pending arkTx unsignedCheckpoints partyCps →
    Passes B pending arkTx unsignedCheckpoints partyCps reply canonical finalCheckpoints →
    ∀ cp ∈ reply.signedCheckpointTxs, SpendsCheckpoint B arkTx.unsignedTx 0 cp

/-- If what was found is a record that passes the checks before a resumed finalization, input
0 of the recorded ark transaction spends every recorded checkpoint. -/
def LinkedRecord (B : BitcoinLib) (call : Call) (found : Except Error (Option PendingSpend)) :
    Prop :=
  ∀ pending arkTxid evidence canonical finalCheckpoints,
    found = .ok (some pending) → Proceeds B call pending →
    Finalizable B pending arkTxid evidence canonical finalCheckpoints →
    ∀ cp ∈ finalCheckpoints, SpendsCheckpoint B evidence.unsignedTx 0 cp

/-- What a run sees is linked. -/
def LinkedRun (B : BitcoinLib) (call : Call) (h : History) : Prop :=
  ∀ found, Found call h found → LinkedRecord B call found ∧
    ∀ arkTx checkpointTxs reply,
      .answered (.submit arkTx checkpointTxs) (.finished (.ok reply)) ∈ h →
      LinkedReply B call found reply

variable {B : BitcoinLib} {store : SpendStore}

theorem Committed.inputVerified {h : History} {arkTx serverSigned : Psbt} {arkTxid : Txid}
    (committed : Committed B h arkTx serverSigned arkTxid) :
    InputVerified B h arkTx arkTxid 0 := by
  obtain ⟨canonical, noted, accepted⟩ := committed.accepted
  exact ⟨serverSigned, canonical, noted, accepted, committed.arkTxid, committed.signed⟩

/-! ## The merge keeps the transactions of the reply -/

theorem Merges.exists_returned {unsignedCheckpoints finalCheckpoints : List Psbt}
    {partyCps : List (List Psbt)} {reply : SubmitReply}
    (merges : Merges B unsignedCheckpoints partyCps reply finalCheckpoints) {final : Psbt}
    (member : final ∈ finalCheckpoints) :
    ∃ cp ∈ reply.signedCheckpointTxs, final.unsignedTx = cp.unsignedTx := by
  have tx : final.unsignedTx ∈ reply.signedCheckpointTxs.map Psbt.unsignedTx :=
    merges.map_unsignedTx ▸ List.mem_map_of_mem member
  obtain ⟨cp, returned, same⟩ := List.mem_map.mp tx
  exact ⟨cp, returned, same.symm⟩

theorem Merges.exists_final {unsignedCheckpoints finalCheckpoints : List Psbt}
    {partyCps : List (List Psbt)} {reply : SubmitReply}
    (merges : Merges B unsignedCheckpoints partyCps reply finalCheckpoints) {cp : Psbt}
    (member : cp ∈ reply.signedCheckpointTxs) :
    ∃ final ∈ finalCheckpoints, final.unsignedTx = cp.unsignedTx := by
  have tx : cp.unsignedTx ∈ finalCheckpoints.map Psbt.unsignedTx :=
    merges.map_unsignedTx ▸ List.mem_map_of_mem member
  exact List.mem_map.mp tx

theorem SpendsCheckpoint.congr {tx : Transaction} {index : Nat} {cp cp' : Psbt}
    (spends : SpendsCheckpoint B tx index cp) (same : cp.unsignedTx = cp'.unsignedTx) :
    SpendsCheckpoint B tx index cp' := by
  obtain ⟨input, present, txid⟩ := spends
  exact ⟨input, present, by rw [txid, same]⟩

/-- What is seen is linked exactly when input 0 spends every checkpoint that may be
finalized. -/
theorem linked_iff_releases {call : Call} {found : Except Error (Option PendingSpend)}
    {outcome : Outcome SubmitReply} :
    (LinkedRecord B call found ∧
        ∀ reply, outcome = .finished (.ok reply) → LinkedReply B call found reply) ↔
      ∀ arkTx finalCheckpoints, Releases B call found outcome arkTx finalCheckpoints →
        ∀ cp ∈ finalCheckpoints, SpendsCheckpoint B arkTx.unsignedTx 0 cp := by
  constructor
  · rintro ⟨record, reply⟩ arkTx finalCheckpoints releases final member
    cases releases with
    | accepted answer source passes =>
        obtain ⟨cp, returned, same⟩ := passes.merged.exists_returned member
        exact (reply _ answer _ _ _ _ _ _ source passes cp returned).congr same.symm
    | resumed loaded proceeds finalizable =>
        exact record _ _ _ _ _ loaded proceeds finalizable final member
  · intro linked
    refine ⟨?_, ?_⟩
    · intro pending arkTxid evidence canonical finalCheckpoints loaded proceeds finalizable
      exact linked _ _ (.resumed loaded proceeds finalizable)
    · intro reply answer pending arkTx unsignedCheckpoints partyCps canonical finalCheckpoints
        source passes cp returned
      obtain ⟨final, member, same⟩ := passes.merged.exists_final returned
      exact (linked _ _ (.accepted answer source passes) final member).congr same

/-! ## The theorem -/

/-- A finalize that rests on linked data releases only what verified inputs spend. -/
theorem Finalizes.paidOut {call : Call} {h : History} {pending : PendingSpend} {arkTxid : Txid}
    {finalCheckpoints : List Psbt} (linked : LinkedRun B call h)
    (finalizes : Finalizes B call h pending arkTxid finalCheckpoints) :
    CheckpointsPaidOut B h (.finalize arkTxid finalCheckpoints) := by
  intro final member
  cases finalizes with
  | @accepted found pending arkTx unsignedCheckpoints partyCps reply canonical _ accepts =>
      have committed := committed_of_accepted accepts.noted accepts.passes.verified
      have reply := (linked found accepts.submits.loaded).2 _ _ _ accepts.answered
      obtain ⟨cp, returned, same⟩ := accepts.passes.merged.exists_returned member
      have spends := reply _ _ _ _ _ _ accepts.submits.source accepts.passes cp returned
      exact ⟨arkTx, 0, committed.inputVerified, spends.congr same.symm⟩
  | @resumed _ _ evidence canonical _ resumes =>
      have committed := committed_of_accepted resumes.noted resumes.finalizable.verified
      obtain rfl := resumes.finalizable.sameTxid
      have spends := (linked _ resumes.loaded).1 _ _ _ _ _ rfl resumes.proceeds
        resumes.finalizable final member
      exact ⟨evidence, 0, committed.inputVerified, spends⟩

/-- **When released checkpoints belong to co-signed inputs.** In every session whose replies
and records are linked to input 0, every finalize releases only checkpoints that a verified
input spends. And this condition is exact: for what one call finds in the store and gets
from the server, all its runs have the property if and only if these are linked. -/
theorem released_checkpoints_paid_out_iff :
    (∀ session : Session B store, (∀ run ∈ session, LinkedRun B run.call run.events) →
      ∀ run ∈ session, Guarded (CheckpointsPaidOut B) run.events) ∧
    ∀ call found outcome,
      (∀ run : CallRun B store, run.call = call → Sees call run.events found outcome →
        Guarded (CheckpointsPaidOut B) run.events) ↔
      LinkedRecord B call found ∧
        ∀ reply, outcome = .finished (.ok reply) → LinkedReply B call found reply := by
  refine ⟨?_, fun call found outcome => ⟨?_, ?_⟩⟩
  · intro session linked run member before request after split
    have justified := call_justified run.emits before request after split
    cases request with
    | finalize arkTxid finalCheckpoints =>
        obtain ⟨pending, finalizes⟩ := justified
        refine finalizes.paidOut fun found loaded => ?_
        have prefixed : before <+: run.events := split ▸ List.prefix_append _ _
        obtain ⟨record, reply⟩ := linked run member found (List.IsPrefix.trans loaded prefixed)
        exact ⟨record, fun arkTx cps r answered => reply arkTx cps r (prefixed.subset answered)⟩
    | _ => trivial
  · intro paidOut
    refine linked_iff_releases.mpr fun arkTx finalCheckpoints releases cp member => ?_
    obtain ⟨before, run, sees, noted⟩ := releases.emits store
    obtain ⟨arkTx', index, verified, spends⟩ := paidOut ⟨call, _, run⟩ rfl sees before
      (.finalize (B.computeTxid arkTx.unsignedTx) finalCheckpoints) [] rfl cp member
    obtain ⟨serverSigned, canonical, accepted, _⟩ := verified
    obtain ⟨rfl, rfl⟩ := noted _ _ _ _ accepted
    exact spends
  · intro linked run same sees before request after split
    subst same
    cases request with
    | finalize arkTxid finalCheckpoints =>
        have emits := run.emits
        rw [split] at emits sees
        intro cp member
        obtain ⟨arkTx, releases, rfl, serverSigned, canonical, noted, accepted⟩ :=
          releases_of_sent emits sees
        have committed := committed_of_accepted noted accepted
        have spends := linked_iff_releases.mp linked _ _ releases cp member
        exact ⟨arkTx, 0, committed.inputVerified, spends⟩
    | _ => trivial

/-- Two checkpoints: the finalize releases both, and the server has signed input 0 only. -/
theorem released_checkpoints_not_always_paid_out :
    ¬ ∀ (B : BitcoinLib) (store : SpendStore) (session : Session B store),
      ∀ run ∈ session, Guarded (CheckpointsPaidOut B) run.events := by
  intro always
  let first := Sample.checkpoint 1 ∅
  let second := Sample.checkpoint 2 ∅
  have valid : validateCheckpoints [first, second] [[first, second]] = .ok () :=
    validateCheckpoints_self (List.cons_ne_nil _ _)
  obtain ⟨finalCheckpoints, merged⟩ := exists_merges_self (B := BitcoinLib.reference)
    [first, second] (by simp [first, second, Sample.checkpoint])
    (Sample.cosigned [first, second])
  have releases := releases_first "escrow" valid
    (Sample.verified_cosigned first [second]) merged
  obtain ⟨before, emits, _, noted⟩ := releases.emits ⟨true, true⟩
  obtain ⟨final, member, same⟩ := merged.exists_final (show second ∈ [first, second] by simp)
  have paidOut := always BitcoinLib.reference ⟨true, true⟩ [⟨_, _, emits⟩] _
    (List.mem_singleton_self _) before _ [] rfl final member
  obtain ⟨arkTx, index, verified, input, present, txid⟩ := paidOut
  obtain ⟨serverSigned, canonical, accepted, _⟩ := verified
  obtain ⟨rfl, rfl⟩ := noted _ _ _ _ accepted
  rw [same] at txid
  obtain rfl : Sample.txIn (BitcoinLib.reference.computeTxid first.unsignedTx) = input := by
    simpa [Sample.arkTx] using present
  simp [Sample.txIn, BitcoinLib.reference, first, second, Sample.checkpoint] at txid

end Client
end ArkadeEscrow
