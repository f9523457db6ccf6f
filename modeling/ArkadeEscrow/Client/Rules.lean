import ArkadeEscrow.Client.Program

/-!
# Rules for the client's programs

What each function asks, and what is known when it asks. After a failed submit and after
an upgrade the program only asks from a short list (`confined_submitFailed`,
`confined_upgradeAndFinalize`), and the rules `safe_submitAndFinalize`, `safe_resumeRecorded`
and `safe_call` give the facts at each request before that. Proofs about the client cite
these rules and do not unfold the programs.
-/

set_option autoImplicit false

namespace ArkadeEscrow
namespace Client

open Interaction Program

variable {B : BitcoinLib} {store : SpendStore} {σ α β : Type}
variable {O : Observer interface σ} {D : Discipline interface σ}

/-! ## Validation and local checks -/

theorem validateParty_eq_ok_iff {unsignedCheckpoints : List Psbt} {i : Nat}
    {partyCps : List Psbt} :
    validateParty unsignedCheckpoints i partyCps = .ok () ↔
      List.Forall₂ Psbt.SameShape partyCps unsignedCheckpoints := by
  rw [List.forall₂_iff_zip, validateParty]
  constructor
  · intro accepted
    obtain ⟨⟨⟩, count, accepted⟩ := Results.bind_eq_ok_iff.mp accepted
    have pairs : ∀ pair ∈ partyCps.zip unsignedCheckpoints, Psbt.SameShape pair.1 pair.2 :=
      (Results.forM_zipIdx_eq_ok_iff fun pair j => by simp [Psbt.SameShape]).mp accepted
    exact ⟨by simpa using count, fun {a b} member => pairs (a, b) member⟩
  · intro matched
    obtain ⟨count, same⟩ := matched
    refine Results.bind_eq_ok_iff.mpr ⟨(), by simpa using count, ?_⟩
    have pairs : ∀ pair ∈ partyCps.zip unsignedCheckpoints, Psbt.SameShape pair.1 pair.2 :=
      fun pair member => same member
    exact (Results.forM_zipIdx_eq_ok_iff fun pair j => by simp [Psbt.SameShape]).mpr pairs

/-- **A fresh call is accepted** when there is a checkpoint and every party has a copy of
each of them, in order. -/
theorem validateCheckpoints_eq_ok_iff {unsignedCheckpoints : List Psbt}
    {partySignedCheckpoints : List (List Psbt)} :
    validateCheckpoints unsignedCheckpoints partySignedCheckpoints = .ok () ↔
      unsignedCheckpoints ≠ [] ∧ ∀ partyCps ∈ partySignedCheckpoints,
        List.Forall₂ Psbt.SameShape partyCps unsignedCheckpoints := by
  constructor
  · intro accepted
    obtain ⟨⟨⟩, some, accepted⟩ := Results.bind_eq_ok_iff.mp accepted
    have parties :=
      (Results.forM_zipIdx_eq_ok_iff fun partyCps i => validateParty_eq_ok_iff).mp accepted
    exact ⟨by simpa [List.length_pos_iff] using some, parties⟩
  · intro matched
    obtain ⟨some, same⟩ := matched
    refine Results.bind_eq_ok_iff.mpr ⟨(), by simpa [List.length_pos_iff] using some, ?_⟩
    exact (Results.forM_zipIdx_eq_ok_iff fun partyCps i => validateParty_eq_ok_iff).mpr same

/-- The server answered the submit with a definitive rejection. -/
def rejects : Outcome SubmitReply → Bool
  | .finished (.error e) => isDefinitiveRejection e
  | _ => false

theorem isDefinitiveRejection_of_statusless {e : Error} (statusless : e.status? = none) :
    isDefinitiveRejection e = false := by
  simp [isDefinitiveRejection, statusless]

theorem isDefinitiveRejection_context (e : Error) (text : String) :
    isDefinitiveRejection (e.context text) = isDefinitiveRejection e := rfl

/-- The returned checkpoints, with their witness scripts restored and all parties' copies
merged in. -/
def Merges (B : BitcoinLib) (unsignedCheckpoints : List Psbt)
    (partySignedCheckpoints : List (List Psbt)) (reply : SubmitReply)
    (finalCheckpoints : List Psbt) : Prop :=
  ∃ serverCheckpoints,
    restoreWitnessScripts B unsignedCheckpoints reply.signedCheckpointTxs =
      some serverCheckpoints ∧
    mergeAllCheckpointSigs serverCheckpoints partySignedCheckpoints = .ok finalCheckpoints

/-- A reply that passes all checks between the submit and the upgrade of the record. -/
structure Passes (B : BitcoinLib) (pending : PendingSpend) (arkTx : Psbt)
    (unsignedCheckpoints : List Psbt) (partyCps : List (List Psbt)) (reply : SubmitReply)
    (canonical : Psbt) (finalCheckpoints : List Psbt) : Prop where
  verified : Spend.verifyServerArkTxSig B arkTx reply.signedArkTx = .ok canonical
  merged : Merges B unsignedCheckpoints partyCps reply finalCheckpoints
  sameTxid : B.txidToString (B.computeTxid arkTx.unsignedTx) = pending.arkTxid

/-- A record at stage `submitted` that passes the checks before its finalization. -/
structure Finalizable (B : BitcoinLib) (pending : PendingSpend) (arkTxid : Txid)
    (evidence canonical : Psbt) (finalCheckpoints : List Psbt) : Prop where
  stage : pending.stage = .submitted
  parsed : B.parseTxid pending.arkTxid = .ok arkTxid
  decoded : decodeEvidence B pending arkTxid = .ok evidence
  sameTxid : B.computeTxid evidence.unsignedTx = arkTxid
  verified : Spend.verifyServerArkTxSig B evidence evidence = .ok canonical
  checkpoints : decodeCheckpoints B "decoding persisted checkpoint PSBTs"
    pending.signedCheckpoints = .ok finalCheckpoints
  spent : checkpointsSpentBy B evidence.unsignedTx finalCheckpoints = true

/-- A record at stage `submitting` and the data that can be submitted again from it. -/
structure Resubmittable (B : BitcoinLib) (pending : PendingSpend) (arkTx : Psbt)
    (unsignedCheckpoints : List Psbt) (partyCps : List (List Psbt)) : Prop where
  stage : pending.stage = .submitting
  parsed : ∃ arkTxid, B.parseTxid pending.arkTxid = .ok arkTxid
  decoded : decodeArkTx B pending = .ok arkTx
  unsigned : decodeCheckpoints B "decoding persisted unsigned checkpoints"
    pending.unsignedCheckpoints = .ok unsignedCheckpoints
  parties : decodePartyCheckpoints B pending.partySignedCheckpoints = .ok partyCps

/-- The call goes on with the record it has found: a spend only if it is bound to the same
transaction. -/
def Proceeds (B : BitcoinLib) : Call → PendingSpend → Prop
  | .spend _ mergedArkTx _ _, pending =>
      B.txidToString (B.computeTxid mergedArkTx.unsignedTx) = pending.arkTxid
  | .resume _, _ => True

/-! ## Actions -/

theorem upholds_inContext {post : Except Error α → σ → Prop} {text : String} {x : Action α}
    {s : σ} : (inContext text x).run.Upholds O D post s ↔
      x.run.Upholds O D (fun r => post (withContext text r)) s := by
  show Upholds O D post (x.run >>= fun r => .done (withContext text r)) s ↔ _
  rw [upholds_bind]
  rfl

theorem upholds_submit {post : Except Error SubmitReply → σ → Prop} {arkTx : Psbt}
    {checkpointTxs : List Psbt} {s : σ} :
    (submit arkTx checkpointTxs).run.Upholds O D post s ↔
      Permits O D (.submit arkTx checkpointTxs)
        (fun outcome => post (runWithTimeout "submitting offchain transaction" outcome)) s :=
  Iff.rfl

theorem upholds_load {post : Except Error (Option PendingSpend) → σ → Prop} {id : String}
    {s : σ} : (load id).run.Upholds O D post s ↔ Permits O D (.load id) post s := Iff.rfl

theorem upholds_save {post : Except Error Unit → σ → Prop} {spend : PendingSpend} {s : σ} :
    (save spend).run.Upholds O D post s ↔ Permits O D (.save spend) post s := Iff.rfl

theorem upholds_newToken {post : Except Error String → σ → Prop} {s : σ} :
    newToken.run.Upholds O D post s ↔
      Permits O D .newToken (fun bytes => post (.ok (PendingSpend.newToken bytes))) s := Iff.rfl

theorem achieves_check_bind {post : β → σ → Prop} {r : Except Error α} {f : α → Action β}
    {s : σ} :
    Fallible.Achieves O D post (check r >>= f) s ↔
      ∀ a, r = .ok a → Fallible.Achieves O D post (f a) s :=
  Fallible.achieves_bind

/-- A successful check makes its remark. -/
theorem upholds_verified {post : Except Error Psbt → σ → Prop} {text : String}
    {own serverSigned : Psbt} {s : σ}
    (refused : ∀ e, e.status? = none → post (.error e) s)
    (accepted : ∀ canonical, Spend.verifyServerArkTxSig B own serverSigned = .ok canonical →
      D.keep (O.noted s (.accepted 0 own serverSigned canonical)) ∧
        post (.ok canonical) (O.noted s (.accepted 0 own serverSigned canonical))) :
    (verified B text own serverSigned).run.Upholds O D post s := by
  have statusless :=
    (Spend.statusless_verifyServerArkTxSig (B := B) own serverSigned).withContext text
  rw [verified]
  cases verdict : Spend.verifyServerArkTxSig B own serverSigned with
  | error e =>
      rw [verdict] at statusless
      exact refused _ (statusless _ rfl)
  | ok canonical => exact accepted canonical verdict

theorem confined_inContext {asks : Ask → Prop} {text : String} {x : Action α}
    (h : Confined asks x.run) : Confined asks (inContext text x).run :=
  h.map _

theorem confined_check {asks : Ask → Prop} (r : Except Error α) :
    Confined asks (check r).run :=
  .done r

/-! ## The store's conditional operations -/

/-- What `removeIf` asks, whatever the backend. -/
inductive RemoveIfAsks (id token : String) : Ask → Prop where
  | own : RemoveIfAsks id token (.removeIf id token)
  | load : RemoveIfAsks id token (.load id)
  | remove : RemoveIfAsks id token (.remove id)

/-- What `saveIf` asks, whatever the backend. -/
inductive SaveIfAsks (spend : PendingSpend) : Ask → Prop where
  | own : SaveIfAsks spend (.saveIf spend)
  | load : SaveIfAsks spend (.load spend.id)
  | save : SaveIfAsks spend (.save spend)

theorem confined_removeIf (id token : String) :
    Confined (RemoveIfAsks id token) (removeIf store id token).run := by
  rw [removeIf]
  split
  · exact .request .own
  · refine Fallible.confined_bind (x := load id) (.request .load) fun found => ?_
    cases found with
    | none => exact .done _
    | some existing =>
        dsimp only
        split
        · exact Fallible.confined_bind (x := remove id) (.request .remove) fun _ => .done _
        · exact .done _

theorem confined_saveIf (spend : PendingSpend) :
    Confined (SaveIfAsks spend) (saveIf store spend).run := by
  rw [saveIf]
  split
  · exact .request .own
  · refine Fallible.confined_bind (x := load spend.id) (.request .load) fun found => ?_
    cases found with
    | none => exact .done _
    | some existing =>
        dsimp only
        split
        · exact Fallible.confined_bind (x := save spend) (.request .save) fun _ => .done _
        · exact .done _

/-- A backend with an operation of its own asks for nothing else. -/
theorem confined_removeIf_own (own : store.overridesRemoveIf = true) {id token : String}
    {asks : Ask → Prop} (member : asks (.removeIf id token)) :
    Confined asks (removeIf store id token).run := by
  rw [removeIf, if_pos own]
  exact .request member

theorem confined_saveIf_own (own : store.overridesSaveIf = true) {spend : PendingSpend}
    {asks : Ask → Prop} (member : asks (.saveIf spend)) :
    Confined asks (saveIf store spend).run := by
  rw [saveIf, if_pos own]
  exact .request member

/-! ## After the submit -/

/-- What is asked once a submit has failed: what it takes to remove the record. -/
theorem confined_submitFailed_of {asks : Ask → Prop} {pending : PendingSpend}
    {firstAttempt : Bool} {e : Error}
    (removes : firstAttempt = true → isDefinitiveRejection e = true →
      Confined asks (removeIf store pending.id pending.token).run) :
    Confined asks (submitFailed store pending firstAttempt e).run := by
  rw [submitFailed]
  dsimp only
  split
  · next rejected =>
      simp only [Bool.and_eq_true] at rejected
      exact Fallible.confined_bind (confined_inContext (removes rejected.1 rejected.2))
        fun cleared => .done _
  · exact .done _

theorem confined_submitFailed (pending : PendingSpend) (firstAttempt : Bool) (e : Error) :
    Confined (fun request => firstAttempt = true ∧ isDefinitiveRejection e = true ∧
      RemoveIfAsks pending.id pending.token request)
      (submitFailed store pending firstAttempt e).run :=
  confined_submitFailed_of fun first rejected =>
    (confined_removeIf _ _).mono fun _ member => ⟨first, rejected, member⟩

/-- What is asked to finalize a record and mark it. -/
inductive FinalizeAsks (pending : PendingSpend) (arkTxid : Txid) (finalCheckpoints : List Psbt) :
    Ask → Prop where
  | finalize : FinalizeAsks pending arkTxid finalCheckpoints (.finalize arkTxid finalCheckpoints)
  | mark {request : Ask} : SaveIfAsks (finalizedRecord pending) request →
      FinalizeAsks pending arkTxid finalCheckpoints request

theorem confined_finalizeAndRecord_of {asks : Ask → Prop} {pending : PendingSpend}
    {arkTxid : Txid} {finalCheckpoints : List Psbt}
    (finalizes : asks (.finalize arkTxid finalCheckpoints))
    (marks : Confined asks (saveIf store (finalizedRecord pending)).run) :
    Confined asks (finalizeAndRecord store pending arkTxid finalCheckpoints).run := by
  rw [finalizeAndRecord]
  refine Fallible.confined_bind (confined_inContext ?_) fun _ => ?_
  · exact (Confined.request finalizes).map _
  · exact Fallible.confined_bind (confined_inContext marks) fun _ => .done _

theorem confined_finalizeAndRecord (pending : PendingSpend) (arkTxid : Txid)
    (finalCheckpoints : List Psbt) :
    Confined (FinalizeAsks pending arkTxid finalCheckpoints)
      (finalizeAndRecord store pending arkTxid finalCheckpoints).run :=
  confined_finalizeAndRecord_of .finalize
    ((confined_saveIf _).mono fun _ member => .mark member)

/-- What is asked once the record has been upgraded in memory. -/
inductive UpgradeAsks (pending : PendingSpend) (arkTxid : Txid) (finalCheckpoints : List Psbt) :
    Ask → Prop where
  | save : UpgradeAsks pending arkTxid finalCheckpoints (.save pending)
  | finalize {request : Ask} : FinalizeAsks pending arkTxid finalCheckpoints request →
      UpgradeAsks pending arkTxid finalCheckpoints request

theorem confined_upgradeAndFinalize_of {asks : Ask → Prop} {pending : PendingSpend}
    {arkTxid : Txid} {finalCheckpoints : List Psbt} (saves : asks (.save pending))
    (finalizes : Confined asks (finalizeAndRecord store pending arkTxid finalCheckpoints).run) :
    Confined asks (upgradeAndFinalize store pending arkTxid finalCheckpoints).run := by
  have save : Confined asks (save pending).attempt.run :=
    Fallible.confined_attempt (.request saves)
  rw [upgradeAndFinalize]
  refine Fallible.confined_bind save fun saved => ?_
  refine Fallible.confined_bind (Fallible.confined_attempt finalizes) fun result => ?_
  cases result with
  | ok txid => exact confined_check _
  | error e =>
      cases saved with
      | ok done => exact confined_check _
      | error e' => exact Fallible.confined_bind save fun _ => confined_check _

theorem confined_upgradeAndFinalize (pending : PendingSpend) (arkTxid : Txid)
    (finalCheckpoints : List Psbt) :
    Confined (UpgradeAsks pending arkTxid finalCheckpoints)
      (upgradeAndFinalize store pending arkTxid finalCheckpoints).run :=
  confined_upgradeAndFinalize_of .save
    ((confined_finalizeAndRecord ..).mono fun _ member => .finalize member)

/-! ## Finalizing and marking -/

/-- A result settles in a state that satisfies `done`, an error in one that satisfies
`fail`. -/
def Settles (done : α → σ → Prop) (fail : σ → Prop) : Except Error α → σ → Prop
  | .ok a, s => done a s
  | .error _, s => fail s

theorem settles_withContext {done : α → σ → Prop} {fail : σ → Prop} {text : String}
    {r : Except Error α} {s : σ} :
    Settles done fail (withContext text r) s ↔ Settles done fail r s := by
  cases r <;> rfl

theorem achieves_of_settles {done : α → σ → Prop} {fail : σ → Prop} {x : Action α} {s : σ}
    (settles : x.run.Upholds O D (Settles done fail) s) : Fallible.Achieves O D done x s := by
  refine settles.mono fun r s' settled a same => ?_
  subst same
  exact settled

/-- The rule of sequencing: an error settles at once. -/
theorem settles_bind {done : β → σ → Prop} {fail : σ → Prop} {x : Action α} {f : α → Action β}
    {s : σ} (first : x.run.Upholds O D
      (Settles (fun a => (f a).run.Upholds O D (Settles done fail)) fail) s) :
    (x >>= f).run.Upholds O D (Settles done fail) s := by
  rw [Fallible.upholds_bind]
  refine first.mono fun r s' settled => ?_
  cases r with
  | ok a => exact settled
  | error e => exact settled

/-- **The rule of `saveIf`**, for both kinds of backend. -/
theorem upholds_saveIf {done : Bool → σ → Prop} {fail : σ → Prop} {spend : PendingSpend} {s : σ}
    (own : store.overridesSaveIf = true → Permits O D (.saveIf spend) (Settles done fail) s)
    (steps : store.overridesSaveIf = false →
      Permits O D (.load spend.id) (Settles (fun found s' =>
        (found.any (fun existing => existing.matchesToken spend.token) = false → done false s') ∧
        ∀ existing, found = some existing → existing.matchesToken spend.token = true →
          Permits O D (.save spend) (Settles (fun _ => done true) fail) s') fail) s) :
    (saveIf store spend).run.Upholds O D (Settles done fail) s := by
  rw [saveIf]
  cases backend : store.overridesSaveIf with
  | true => exact own backend
  | false =>
      rw [if_neg Bool.false_ne_true]
      refine settles_bind (upholds_load.mpr ((steps backend).mono fun found s' settled => ?_))
      cases found with
      | error e => exact settled
      | ok found =>
          obtain ⟨other, mine⟩ := settled
          cases found with
          | none => exact other rfl
          | some existing =>
              show Upholds O D _ (ite _ _ _ : Action Bool).run s'
              cases matches_ : existing.matchesToken spend.token with
              | false =>
                  rw [if_neg Bool.false_ne_true]
                  exact other (by simpa using matches_)
              | true =>
                  rw [if_pos rfl]
                  exact settles_bind (upholds_save.mpr (mine existing rfl matches_))

/-- **The rule of `finalizeAndRecord`.** -/
theorem upholds_finalizeAndRecord {done : Txid → σ → Prop} {fail : σ → Prop}
    {pending : PendingSpend} {arkTxid : Txid} {finalCheckpoints : List Psbt} {s : σ}
    (finalizes : Permits O D (.finalize arkTxid finalCheckpoints) (fun outcome s' =>
      (outcome ≠ .finished (.ok ()) → fail s') ∧
      (outcome = .finished (.ok ()) →
        (saveIf store (finalizedRecord pending)).run.Upholds O D
          (Settles (fun _ => done arkTxid) fail) s')) s) :
    (finalizeAndRecord store pending arkTxid finalCheckpoints).run.Upholds O D
      (Settles done fail) s := by
  rw [finalizeAndRecord]
  refine settles_bind (upholds_inContext.mpr ?_)
  refine Permits.mono finalizes fun outcome s' ⟨failed, finished⟩ => ?_
  rcases outcome with millis | (e | ⟨⟨⟩⟩)
  · exact failed (by simp)
  · exact failed (by simp)
  · refine settles_bind (upholds_inContext.mpr ((finished rfl).mono fun written s'' settled => ?_))
    rw [settles_withContext]
    cases written with
    | ok written => exact settled
    | error e => exact settled

/-- **The rule of `upgradeAndFinalize`**: the record is saved once more when the first save
has failed and so has the rest. -/
theorem upholds_upgradeAndFinalize {done : Txid → σ → Prop} {fail : σ → Prop}
    {pending : PendingSpend} {arkTxid : Txid} {finalCheckpoints : List Psbt} {s : σ}
    (saves : Permits O D (.save pending) (Settles
      (fun _ => (finalizeAndRecord store pending arkTxid finalCheckpoints).run.Upholds O D
        (Settles done fail))
      ((finalizeAndRecord store pending arkTxid finalCheckpoints).run.Upholds O D
        (Settles done (Permits O D (.save pending) fun _ => fail)))) s) :
    (upgradeAndFinalize store pending arkTxid finalCheckpoints).run.Upholds O D
      (Settles done fail) s := by
  rw [upgradeAndFinalize, Fallible.upholds_bind, Fallible.upholds_attempt, upholds_save]
  refine saves.mono fun saved s' settled => ?_
  show Upholds O D _ ((finalizeAndRecord ..).attempt >>= _ : Action Txid).run s'
  rw [Fallible.upholds_bind, Fallible.upholds_attempt]
  cases saved with
  | ok saved =>
      refine Upholds.mono settled fun result s'' settled' => ?_
      cases result with
      | ok txid => exact settled'
      | error e => exact settled'
  | error e =>
      refine Upholds.mono settled fun result s'' settled' => ?_
      cases result with
      | ok txid => exact settled'
      | error e' =>
          show Upholds O D _ ((save pending).attempt >>= _ : Action Txid).run s''
          rw [Fallible.upholds_bind, Fallible.upholds_attempt, upholds_save]
          exact Permits.mono settled' fun _ _ failed => failed

/-! ## Submitting -/

/-- What is known when a submit returns: an error is a definitive rejection exactly when
the server's answer is one, and a result comes from a reply that was verified. -/
theorem upholds_submitInternal {post : Except Error (Txid × Psbt × List Psbt) → σ → Prop}
    {arkTx : Psbt} {checkpointTxs : List Psbt} {s : σ}
    (sends : Permits O D (.submit arkTx checkpointTxs) (fun outcome s' =>
      (∀ e, isDefinitiveRejection e = rejects outcome → post (.error e) s') ∧
      ∀ reply canonical, outcome = .finished (.ok reply) →
        Spend.verifyServerArkTxSig B arkTx reply.signedArkTx = .ok canonical →
        D.keep (O.noted s' (.accepted 0 arkTx reply.signedArkTx canonical)) ∧
        ∀ serverCheckpoints, restoreWitnessScripts B checkpointTxs reply.signedCheckpointTxs =
          some serverCheckpoints →
          post (.ok (B.computeTxid arkTx.unsignedTx, canonical, serverCheckpoints))
            (O.noted s' (.accepted 0 arkTx reply.signedArkTx canonical))) s) :
    (submitInternal B arkTx checkpointTxs).run.Upholds O D post s := by
  rw [submitInternal, Fallible.upholds_bind, upholds_inContext, upholds_submit]
  refine sends.mono fun outcome s' ⟨failed, accepted⟩ => ?_
  cases outcome with
  | elapsed millis => exact failed _ rfl
  | finished result =>
      cases result with
      | error e => exact failed _ (isDefinitiveRejection_context ..)
      | ok reply =>
          show Upholds O D post (verified B _ arkTx reply.signedArkTx >>= _).run s'
          rw [Fallible.upholds_bind]
          refine upholds_verified ?_ fun canonical verdict => ?_
          · intro e statusless
            exact failed e (isDefinitiveRejection_of_statusless statusless)
          · obtain ⟨kept, restored⟩ := accepted reply canonical rfl verdict
            refine ⟨kept, ?_⟩
            dsimp only
            split
            · next serverCheckpoints found => exact restored serverCheckpoints found
            · trivial

/-- A failed submit never returns a result. -/
theorem achieves_submitFailed {post : Txid → σ → Prop} {pending : PendingSpend}
    {firstAttempt : Bool} {e : Error} {s : σ}
    (safe : Safe O D (submitFailed store pending firstAttempt e).run s) :
    Fallible.Achieves O D post (submitFailed store pending firstAttempt e) s := by
  rw [submitFailed] at safe ⊢
  dsimp only at safe ⊢
  split at safe
  · next rejected =>
      rw [if_pos rejected, Fallible.achieves_bind]
      refine (Fallible.safe_bind.mp safe).mono fun r s' _ cleared _ => ?_
      rintro a ⟨⟩
  · next other =>
      rw [if_neg other]
      rintro a ⟨⟩

/-- **The rule of `submitAndFinalize`.** -/
theorem achieves_submitAndFinalize {post : Txid → σ → Prop} {pending : PendingSpend}
    {mergedArkTx : Psbt} {unsignedCheckpoints : List Psbt}
    {partySignedCheckpoints : List (List Psbt)} {firstAttempt : Bool} {s : σ}
    (sends : Permits O D (.submit mergedArkTx unsignedCheckpoints) (fun outcome s' =>
      (∀ e, isDefinitiveRejection e = rejects outcome →
        Safe O D (submitFailed store pending firstAttempt e).run s') ∧
      ∀ reply canonical, outcome = .finished (.ok reply) →
        Spend.verifyServerArkTxSig B mergedArkTx reply.signedArkTx = .ok canonical →
        D.keep (O.noted s' (.accepted 0 mergedArkTx reply.signedArkTx canonical)) ∧
        ∀ finalCheckpoints,
          Passes B pending mergedArkTx unsignedCheckpoints partySignedCheckpoints reply canonical
            finalCheckpoints →
          Fallible.Achieves O D post
            (upgradeAndFinalize store (upgradedRecord B pending canonical finalCheckpoints)
              (B.computeTxid mergedArkTx.unsignedTx) finalCheckpoints)
            (O.noted s' (.accepted 0 mergedArkTx reply.signedArkTx canonical))) s) :
    Fallible.Achieves O D post (submitAndFinalize B store pending mergedArkTx unsignedCheckpoints
      partySignedCheckpoints firstAttempt) s := by
  rw [submitAndFinalize, Fallible.achieves_bind]
  refine Fallible.upholds_attempt.mpr ?_
  refine upholds_submitInternal (sends.mono fun outcome s' ⟨failed, accepted⟩ => ⟨?_, ?_⟩)
  · rintro e same _ ⟨⟩
    exact achieves_submitFailed (failed e same)
  · intro reply canonical answer verdict
    obtain ⟨kept, upgraded⟩ := accepted reply canonical answer verdict
    refine ⟨kept, ?_⟩
    rintro serverCheckpoints restored _ ⟨⟩
    refine achieves_check_bind.mpr fun ⟨⟩ same => ?_
    refine achieves_check_bind.mpr fun finalCheckpoints merged => ?_
    exact upgraded finalCheckpoints
      { verified := verdict
        merged := ⟨serverCheckpoints, restored, merged⟩
        sameTxid := by simpa using same }

/-- The rule, when nothing is asked of the result. -/
theorem safe_submitAndFinalize {pending : PendingSpend} {mergedArkTx : Psbt}
    {unsignedCheckpoints : List Psbt} {partySignedCheckpoints : List (List Psbt)}
    {firstAttempt : Bool} {s : σ}
    (sends : Permits O D (.submit mergedArkTx unsignedCheckpoints) (fun outcome s' =>
      (∀ e, isDefinitiveRejection e = rejects outcome →
        Safe O D (submitFailed store pending firstAttempt e).run s') ∧
      ∀ reply canonical, outcome = .finished (.ok reply) →
        Spend.verifyServerArkTxSig B mergedArkTx reply.signedArkTx = .ok canonical →
        D.keep (O.noted s' (.accepted 0 mergedArkTx reply.signedArkTx canonical)) ∧
        ∀ finalCheckpoints,
          Passes B pending mergedArkTx unsignedCheckpoints partySignedCheckpoints reply canonical
            finalCheckpoints →
          Safe O D (upgradeAndFinalize store (upgradedRecord B pending canonical finalCheckpoints)
            (B.computeTxid mergedArkTx.unsignedTx) finalCheckpoints).run
            (O.noted s' (.accepted 0 mergedArkTx reply.signedArkTx canonical))) s) :
    Safe O D (submitAndFinalize B store pending mergedArkTx unsignedCheckpoints
      partySignedCheckpoints firstAttempt).run s := by
  suffices achieves : Fallible.Achieves O D (fun _ _ => True) _ s from achieves.safe
  refine achieves_submitAndFinalize
    (sends.mono fun outcome s' ⟨failed, accepted⟩ => ⟨failed, ?_⟩)
  intro reply canonical answer verdict
  obtain ⟨kept, upgraded⟩ := accepted reply canonical answer verdict
  exact ⟨kept, fun finalCheckpoints passes =>
    Fallible.achieves_of_safe (upgraded finalCheckpoints passes) fun _ _ => trivial⟩

/-! ## The calls -/

/-- **The rule of `resumeRecorded`.** -/
theorem achieves_resumeRecorded {post : Txid → σ → Prop} {pending : PendingSpend} {s : σ}
    (finalized : ∀ arkTxid, pending.stage = .finalized →
      B.parseTxid pending.arkTxid = .ok arkTxid → post arkTxid s)
    (submitted : ∀ evidence canonical, pending.stage = .submitted →
      Spend.verifyServerArkTxSig B evidence evidence = .ok canonical →
      D.keep (O.noted s (.accepted 0 evidence evidence canonical)) ∧
      ∀ arkTxid finalCheckpoints,
        Finalizable B pending arkTxid evidence canonical finalCheckpoints →
        Fallible.Achieves O D post (finalizeAndRecord store pending arkTxid finalCheckpoints)
          (O.noted s (.accepted 0 evidence evidence canonical)))
    (submitting : ∀ arkTx unsignedCheckpoints partyCps,
      Resubmittable B pending arkTx unsignedCheckpoints partyCps →
      Fallible.Achieves O D post
        (submitAndFinalize B store pending arkTx unsignedCheckpoints partyCps false) s) :
    Fallible.Achieves O D post (resumeRecorded B store pending) s := by
  rw [resumeRecorded]
  refine achieves_check_bind.mpr fun arkTxid parsed => ?_
  replace parsed : B.parseTxid pending.arkTxid = .ok arkTxid := by simpa using parsed
  cases stage : pending.stage with
  | finalized =>
      rintro a ⟨⟩
      exact finalized arkTxid stage parsed
  | submitting =>
      show Fallible.Achieves O D post (resumeSubmitting B store pending) s
      rw [resumeSubmitting]
      refine achieves_check_bind.mpr fun arkTx decoded => ?_
      refine achieves_check_bind.mpr fun unsignedCheckpoints unsigned => ?_
      refine achieves_check_bind.mpr fun partyCps parties => ?_
      exact submitting arkTx unsignedCheckpoints partyCps
        { stage := stage
          parsed := ⟨arkTxid, parsed⟩
          decoded := decoded
          unsigned := unsigned
          parties := parties }
  | submitted =>
      show Fallible.Achieves O D post (resumeSubmitted B store pending arkTxid) s
      rw [resumeSubmitted]
      refine achieves_check_bind.mpr fun evidence decoded => ?_
      refine achieves_check_bind.mpr fun ⟨⟩ sameTxid => ?_
      refine Fallible.achieves_bind.mpr (upholds_verified ?_ fun canonical verdict => ?_)
      · rintro e _ a ⟨⟩
      · obtain ⟨kept, finalizes⟩ := submitted evidence canonical stage verdict
        refine ⟨kept, ?_⟩
        rintro _ ⟨⟩
        refine achieves_check_bind.mpr fun finalCheckpoints checkpoints => ?_
        refine achieves_check_bind.mpr fun ⟨⟩ spent => ?_
        exact finalizes arkTxid finalCheckpoints
          { stage := stage
            parsed := parsed
            decoded := decoded
            sameTxid := by simpa using sameTxid
            verified := verdict
            checkpoints := checkpoints
            spent := by simpa using spent }

/-- The rule, when nothing is asked of the result. -/
theorem safe_resumeRecorded {pending : PendingSpend} {s : σ}
    (submitted : ∀ evidence canonical, pending.stage = .submitted →
      Spend.verifyServerArkTxSig B evidence evidence = .ok canonical →
      D.keep (O.noted s (.accepted 0 evidence evidence canonical)) ∧
      ∀ arkTxid finalCheckpoints,
        Finalizable B pending arkTxid evidence canonical finalCheckpoints →
        Safe O D (finalizeAndRecord store pending arkTxid finalCheckpoints).run
          (O.noted s (.accepted 0 evidence evidence canonical)))
    (submitting : ∀ arkTx unsignedCheckpoints partyCps,
      Resubmittable B pending arkTx unsignedCheckpoints partyCps →
      Safe O D (submitAndFinalize B store pending arkTx unsignedCheckpoints partyCps false).run s) :
    Safe O D (resumeRecorded B store pending).run s := by
  suffices achieves : Fallible.Achieves O D (fun _ _ => True) _ s from achieves.safe
  refine achieves_resumeRecorded (fun _ _ _ => trivial) ?_ ?_
  · intro evidence canonical stage verdict
    obtain ⟨kept, finalizes⟩ := submitted evidence canonical stage verdict
    exact ⟨kept, fun arkTxid finalCheckpoints finalizable =>
      Fallible.achieves_of_safe (finalizes arkTxid finalCheckpoints finalizable)
        fun _ _ => trivial⟩
  · exact fun arkTx unsignedCheckpoints partyCps resubmittable =>
      Fallible.achieves_of_safe (submitting arkTx unsignedCheckpoints partyCps resubmittable)
        fun _ _ => trivial

/-- **The rule of a call.** A fresh call saves its record and submits its arguments; any
other call that asks more than the load resumes a record it has loaded. -/
theorem upholds_call {post : Option Txid → σ → Prop} {call : Call} {s : σ}
    (loads : Permits O D (.load call.id) (fun found s' =>
      (∀ id, call = .resume id → found = .ok none → post none s') ∧
      (∀ pending, found = .ok (some pending) → Proceeds B call pending →
        Fallible.Achieves O D (fun txid => post (some txid)) (resumeRecorded B store pending) s') ∧
      ∀ id mergedArkTx unsignedCheckpoints partySignedCheckpoints,
        call = .spend id mergedArkTx unsignedCheckpoints partySignedCheckpoints →
        found = .ok none →
        validateCheckpoints unsignedCheckpoints partySignedCheckpoints = .ok () →
        Permits O D .newToken (fun bytes s₂ =>
          Permits O D (.save (freshRecord B id mergedArkTx unsignedCheckpoints
              partySignedCheckpoints (PendingSpend.newToken bytes)))
            (fun saved s₃ => saved = .ok () →
              Fallible.Achieves O D (fun txid => post (some txid))
                (submitAndFinalize B store (freshRecord B id mergedArkTx
                  unsignedCheckpoints partySignedCheckpoints (PendingSpend.newToken bytes))
                  mergedArkTx unsignedCheckpoints partySignedCheckpoints true) s₃) s₂) s') s) :
    (call.program B store).Upholds O D (fun r s' => ∀ result, r = .ok result → post result s')
      s := by
  cases call with
  | spend id mergedArkTx unsignedCheckpoints partySignedCheckpoints =>
      show Fallible.Achieves O D post (some <$> spendEscrowOffchain B store id mergedArkTx
        unsignedCheckpoints partySignedCheckpoints) s
      rw [Fallible.achieves_map, spendEscrowOffchain, Fallible.achieves_bind, Fallible.Achieves,
        upholds_inContext, upholds_load]
      refine loads.mono fun found s' answered => ?_
      obtain ⟨_, resumes, fresh⟩ := answered
      rintro (_ | pending) loaded
      · replace loaded : found = .ok none := by simpa using loaded
        refine achieves_check_bind.mpr fun _ valid => ?_
        rw [Fallible.achieves_bind, Fallible.Achieves, upholds_newToken]
        refine (fresh id _ _ _ rfl loaded valid).mono fun bytes s₂ saves => ?_
        rintro _ ⟨⟩
        rw [Fallible.achieves_bind, Fallible.Achieves, upholds_inContext, upholds_save]
        refine saves.mono fun saved s₃ submits => ?_
        intro _ accepted
        exact submits (by simpa using accepted)
      · replace loaded : found = .ok (some pending) := by simpa using loaded
        refine achieves_check_bind.mpr fun done bound => ?_
        cases done
        exact resumes pending loaded (by simpa [Proceeds] using bound)
  | resume id =>
      show Fallible.Achieves O D post (resumePendingSpend B store id) s
      rw [resumePendingSpend, Fallible.achieves_bind, Fallible.Achieves, upholds_inContext,
        upholds_load]
      refine loads.mono fun found s' answered => ?_
      obtain ⟨absent, resumes, _⟩ := answered
      rintro (_ | pending) loaded
      · replace loaded : found = .ok none := by simpa using loaded
        rintro a ⟨⟩
        exact absent id rfl loaded
      · replace loaded : found = .ok (some pending) := by simpa using loaded
        exact Fallible.achieves_map.mpr (resumes pending loaded trivial)

/-- The rule, when nothing is asked of the result. -/
theorem safe_call {call : Call} {s : σ}
    (loads : Permits O D (.load call.id) (fun found s' =>
      (∀ pending, found = .ok (some pending) → Proceeds B call pending →
        Safe O D (resumeRecorded B store pending).run s') ∧
      ∀ id mergedArkTx unsignedCheckpoints partySignedCheckpoints,
        call = .spend id mergedArkTx unsignedCheckpoints partySignedCheckpoints →
        found = .ok none →
        validateCheckpoints unsignedCheckpoints partySignedCheckpoints = .ok () →
        Permits O D .newToken (fun bytes s₂ =>
          Permits O D (.save (freshRecord B id mergedArkTx unsignedCheckpoints
              partySignedCheckpoints (PendingSpend.newToken bytes)))
            (fun saved s₃ => saved = .ok () →
              Safe O D (submitAndFinalize B store (freshRecord B id mergedArkTx
                unsignedCheckpoints partySignedCheckpoints (PendingSpend.newToken bytes))
                mergedArkTx unsignedCheckpoints partySignedCheckpoints true).run s₃) s₂) s') s) :
    Safe O D (call.program B store) s := by
  suffices upholds : (call.program B store).Upholds O D
    (fun r s' => ∀ result, r = .ok result → True) s from upholds.mono fun _ _ _ => trivial
  refine upholds_call (loads.mono fun found s' ⟨resumes, fresh⟩ =>
    ⟨fun _ _ _ => trivial, fun pending loaded proceeds => ?_, ?_⟩)
  · exact Fallible.achieves_of_safe (resumes pending loaded proceeds) fun _ _ => trivial
  · intro id mergedArkTx unsignedCheckpoints partySignedCheckpoints same loaded valid
    refine (fresh id _ _ _ same loaded valid).mono fun bytes s₂ saves => ?_
    refine saves.mono fun saved s₃ submits accepted => ?_
    exact Fallible.achieves_of_safe (submits accepted) fun _ _ => trivial

end Client
end ArkadeEscrow
