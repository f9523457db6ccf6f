import ArkadeEscrow.Client.History

/-!
# Runs that get through

The converse of `call_justified`: a call whose checks pass can send what it is about to
send. What a call does is determined by its arguments, by what it finds in the store at the
start and by the outcome of its submit, and `Sees` fixes the last two for a run. Then
`Releases` describes exactly the finalize requests (`releases_of_sent`, `Releases.emits`) and
`Upgrades` exactly the saves at stage `submitted` (`upgrades_of_sent`, `Upgrades.emits`).
-/

set_option autoImplicit false

namespace ArkadeEscrow
namespace Client

open Interaction

variable {B : BitcoinLib} {store : SpendStore}

/-! ## Actions that return -/

theorem returns_check_bind {α β : Type} {r : Except Error α} {a : α} {f : α → Action β}
    {events : History} {b : β} (ok : r = .ok a) (rest : Fallible.Returns (f a) events b) :
    Fallible.Returns (check r >>= f) events b := by
  subst ok
  exact rest

theorem emits_check_bind {α β : Type} {r : Except Error α} {a : α} {f : α → Action β}
    {events : History} (ok : r = .ok a) (rest : Emits (f a).run events) :
    Emits (check r >>= f).run events := by
  subst ok
  exact rest

theorem emits_ensure_bind {β : Type} {condition : Bool} {text : String} {f : Unit → Action β}
    {events : History} (holds : condition = true) (rest : Emits (f ()).run events) :
    Emits (check (ensure condition text) >>= f).run events :=
  emits_check_bind (ensure_eq_ok_iff.mpr holds) rest

theorem returns_inContext {α : Type} {text : String} {x : Action α} {events : History} {a : α}
    (h : Fallible.Returns x events a) : Fallible.Returns (inContext text x) events a :=
  Returns.map h _

theorem returns_load {id : String} {found : Option PendingSpend} :
    Fallible.Returns (load id) [.sent (.load id), .answered (.load id) (.ok found)] found :=
  Returns.request (I := interface) _ _

theorem returns_save {spend : PendingSpend} :
    Fallible.Returns (save spend) [.sent (.save spend), .answered (.save spend) (.ok ())] () :=
  Returns.request (I := interface) _ _

theorem returns_newToken {bytes : Vector UInt8 16} :
    Fallible.Returns newToken [.sent .newToken, .answered .newToken bytes]
      (PendingSpend.newToken bytes) :=
  Returns.map (Returns.request (I := interface) _ _) _

theorem returns_submit {arkTx : Psbt} {checkpointTxs : List Psbt} {reply : SubmitReply} :
    Fallible.Returns (submit arkTx checkpointTxs)
      [.sent (.submit arkTx checkpointTxs),
        .answered (.submit arkTx checkpointTxs) (.finished (.ok reply))] reply :=
  Returns.map
    (Returns.request (I := interface) (.submit arkTx checkpointTxs) (.finished (.ok reply))) _

theorem returns_verified {text : String} {own serverSigned canonical : Psbt}
    (accepted : Spend.verifyServerArkTxSig B own serverSigned = .ok canonical) :
    Fallible.Returns (verified B text own serverSigned)
      [.noted (.accepted 0 own serverSigned canonical)] canonical := by
  rw [verified]
  apply returns_check_bind (withContext_eq_ok_iff.mpr accepted)
  exact Evolves.note (I := interface) _ (.stop _)

theorem returns_submitInternal {arkTx : Psbt} {checkpointTxs : List Psbt} {reply : SubmitReply}
    {canonical : Psbt} {serverCheckpoints : List Psbt}
    (accepted : Spend.verifyServerArkTxSig B arkTx reply.signedArkTx = .ok canonical)
    (restored : restoreWitnessScripts B checkpointTxs reply.signedCheckpointTxs =
      some serverCheckpoints) :
    Fallible.Returns (submitInternal B arkTx checkpointTxs)
      [.sent (.submit arkTx checkpointTxs),
        .answered (.submit arkTx checkpointTxs) (.finished (.ok reply)),
        .noted (.accepted 0 arkTx reply.signedArkTx canonical)]
      (B.computeTxid arkTx.unsignedTx, canonical, serverCheckpoints) := by
  rw [submitInternal]
  refine (returns_inContext returns_submit).bind ((returns_verified accepted).bind ?_)
  rw [restored]
  exact .done _

/-! ## From the submit to the finalize -/

/-- A submit and an accepted reply. -/
def submitTrace (arkTx : Psbt) (checkpointTxs : List Psbt) (reply : SubmitReply)
    (canonical : Psbt) : History :=
  [.sent (.submit arkTx checkpointTxs),
    .answered (.submit arkTx checkpointTxs) (.finished (.ok reply)),
    .noted (.accepted 0 arkTx reply.signedArkTx canonical)]

/-- The save of an upgraded record and the finalize after it. -/
def upgradeTrace (pending : PendingSpend) (arkTxid : Txid) (finalCheckpoints : List Psbt) :
    History :=
  [.sent (.save pending), .answered (.save pending) (.ok ()),
    .sent (.finalize arkTxid finalCheckpoints)]

theorem emits_finalizeAndRecord {pending : PendingSpend} {arkTxid : Txid}
    {finalCheckpoints : List Psbt} :
    Emits (finalizeAndRecord store pending arkTxid finalCheckpoints).run
      [.sent (.finalize arkTxid finalCheckpoints)] := by
  rw [finalizeAndRecord]
  exact Emits.send (I := interface) (.finalize arkTxid finalCheckpoints) _

theorem emits_upgradeAndFinalize {pending : PendingSpend} {arkTxid : Txid}
    {finalCheckpoints : List Psbt} :
    Emits (upgradeAndFinalize store pending arkTxid finalCheckpoints).run
      (upgradeTrace pending arkTxid finalCheckpoints) := by
  rw [upgradeAndFinalize]
  apply returns_save.attempt.emits_bind
  exact Emits.send (I := interface) (.finalize arkTxid finalCheckpoints) _

/-- A reply that passes the checks leads to the upgrade. -/
theorem emits_upgrade {pending : PendingSpend} {arkTx : Psbt} {unsignedCheckpoints : List Psbt}
    {partyCps : List (List Psbt)} {firstAttempt : Bool} {reply : SubmitReply} {canonical : Psbt}
    {finalCheckpoints : List Psbt} {events : History}
    (passes : Passes B pending arkTx unsignedCheckpoints partyCps reply canonical
      finalCheckpoints)
    (rest : Emits (upgradeAndFinalize store (upgradedRecord B pending canonical finalCheckpoints)
      (B.computeTxid arkTx.unsignedTx) finalCheckpoints).run events) :
    Emits (submitAndFinalize B store pending arkTx unsignedCheckpoints partyCps firstAttempt).run
      (submitTrace arkTx unsignedCheckpoints reply canonical ++ events) := by
  obtain ⟨serverCheckpoints, restored, merged⟩ := passes.merged
  rw [submitAndFinalize]
  apply (returns_submitInternal passes.verified restored).attempt.emits_bind
  apply emits_ensure_bind (by simpa using passes.sameTxid)
  exact emits_check_bind merged rest

theorem emits_submitAndFinalize {pending : PendingSpend} {arkTx : Psbt}
    {unsignedCheckpoints : List Psbt} {partyCps : List (List Psbt)} {firstAttempt : Bool}
    {reply : SubmitReply} {canonical : Psbt} {finalCheckpoints : List Psbt}
    (passes : Passes B pending arkTx unsignedCheckpoints partyCps reply canonical
      finalCheckpoints) :
    Emits (submitAndFinalize B store pending arkTx unsignedCheckpoints partyCps firstAttempt).run
      (submitTrace arkTx unsignedCheckpoints reply canonical ++
        upgradeTrace (upgradedRecord B pending canonical finalCheckpoints)
          (B.computeTxid arkTx.unsignedTx) finalCheckpoints) :=
  emits_upgrade passes emits_upgradeAndFinalize

theorem emits_submit {pending : PendingSpend} {arkTx : Psbt} {unsignedCheckpoints : List Psbt}
    {partyCps : List (List Psbt)} {firstAttempt : Bool} :
    Emits (submitAndFinalize B store pending arkTx unsignedCheckpoints partyCps firstAttempt).run
      [.sent (.submit arkTx unsignedCheckpoints)] := by
  rw [submitAndFinalize]
  exact Emits.send (I := interface) (.submit arkTx unsignedCheckpoints) _

theorem returns_refused {arkTx : Psbt} {checkpointTxs : List Psbt} {e : Error} :
    Returns (submitInternal B arkTx checkpointTxs).run
      [.sent (.submit arkTx checkpointTxs),
        .answered (.submit arkTx checkpointTxs) (.finished (.error e))]
      (.error (e.context "submitting offchain transaction")) :=
  .exchange (I := interface) _ _ (.stop _)

/-- A first attempt whose submit is definitively rejected asks to remove its record. -/
theorem emits_rejected {pending : PendingSpend} {arkTx : Psbt} {unsignedCheckpoints : List Psbt}
    {partyCps : List (List Psbt)} {e : Error} (conditional : store.overridesRemoveIf = true)
    (rejected : isDefinitiveRejection e = true) :
    Emits (submitAndFinalize B store pending arkTx unsignedCheckpoints partyCps true).run
      ([.sent (.submit arkTx unsignedCheckpoints),
        .answered (.submit arkTx unsignedCheckpoints) (.finished (.error e))] ++
        [.sent (.removeIf pending.id pending.token)]) := by
  rw [submitAndFinalize, Fallible.run_attempt_bind]
  refine Returns.emits_bind returns_refused ?_
  dsimp only
  rw [submitFailed, isDefinitiveRejection_context, rejected, Bool.and_true, if_pos rfl, removeIf,
    if_pos conditional]
  exact Emits.send (I := interface) (.removeIf pending.id pending.token) _

/-! ## From the start to the submit -/

/-- No submit has been answered, and nothing has been verified. -/
structure Quiet (h : History) : Prop where
  unanswered : ∀ arkTx checkpointTxs outcome,
    .answered (.submit arkTx checkpointTxs) outcome ∉ h
  unverified : ∀ index own serverSigned canonical,
    .noted (.accepted index own serverSigned canonical) ∉ h

theorem emits_resumeRecorded_submitting {pending : PendingSpend} {arkTx : Psbt}
    {unsignedCheckpoints : List Psbt} {partyCps : List (List Psbt)} {events : History}
    (resubmittable : Resubmittable B pending arkTx unsignedCheckpoints partyCps)
    (rest : Emits (submitAndFinalize B store pending arkTx unsignedCheckpoints partyCps
      false).run events) :
    Emits (resumeRecorded B store pending).run events := by
  obtain ⟨arkTxid, parsed⟩ := resubmittable.parsed
  rw [resumeRecorded]
  apply emits_check_bind (by simpa using parsed)
  rw [resubmittable.stage]
  show Emits (resumeSubmitting B store pending).run events
  rw [resumeSubmitting]
  apply emits_check_bind resubmittable.decoded
  apply emits_check_bind resubmittable.unsigned
  exact emits_check_bind resubmittable.parties rest

theorem emits_resumeRecorded_submitted {pending : PendingSpend} {arkTxid : Txid}
    {evidence canonical : Psbt} {finalCheckpoints : List Psbt}
    (finalizable : Finalizable B pending arkTxid evidence canonical finalCheckpoints) :
    Emits (resumeRecorded B store pending).run
      [.noted (.accepted 0 evidence evidence canonical),
        .sent (.finalize arkTxid finalCheckpoints)] := by
  rw [resumeRecorded]
  apply emits_check_bind (by simpa using finalizable.parsed)
  rw [finalizable.stage]
  show Emits (resumeSubmitted B store pending arkTxid).run _
  rw [resumeSubmitted]
  apply emits_check_bind finalizable.decoded
  apply emits_ensure_bind (by simpa using finalizable.sameTxid)
  apply (returns_verified finalizable.verified).emits_bind
  apply emits_check_bind finalizable.checkpoints
  apply emits_ensure_bind finalizable.spent
  exact emits_finalizeAndRecord

variable (store) in
/-- A call that finds a record and proceeds with it resumes it. -/
theorem emits_call_found {call : Call} {pending : PendingSpend} {events : History}
    (proceeds : Proceeds B call pending)
    (rest : Emits (resumeRecorded B store pending).run events) :
    Emits (call.program B store)
      ([.sent (.load call.id), .answered (.load call.id) (.ok (some pending))] ++ events) := by
  cases call with
  | spend id mergedArkTx unsignedCheckpoints partySignedCheckpoints =>
      refine Emits.bind (p := (spendEscrowOffchain B store id mergedArkTx unsignedCheckpoints
        partySignedCheckpoints).run) ?_ _
      rw [spendEscrowOffchain]
      apply (returns_inContext returns_load).emits_bind
      exact emits_ensure_bind (by simpa [Proceeds] using proceeds) rest
  | resume id =>
      show Emits (resumePendingSpend B store id).run _
      rw [resumePendingSpend]
      exact (returns_inContext returns_load).emits_bind (Emits.bind rest _)

/-- A fresh call records its arguments and submits them. -/
theorem emits_call_fresh {id : String} {arkTx : Psbt} {unsignedCheckpoints : List Psbt}
    {partyCps : List (List Psbt)} (bytes : Vector UInt8 16) {events : History}
    (valid : validateCheckpoints unsignedCheckpoints partyCps = .ok ())
    (rest : Emits (submitAndFinalize B store (freshRecord B id arkTx unsignedCheckpoints partyCps
      (PendingSpend.newToken bytes)) arkTx unsignedCheckpoints partyCps true).run events) :
    Emits ((Call.spend id arkTx unsignedCheckpoints partyCps).program B store)
      ([.sent (.load id), .answered (.load id) (.ok none), .sent .newToken,
        .answered .newToken bytes,
        .sent (.save (freshRecord B id arkTx unsignedCheckpoints partyCps
          (PendingSpend.newToken bytes))),
        .answered (.save (freshRecord B id arkTx unsignedCheckpoints partyCps
          (PendingSpend.newToken bytes))) (.ok ())] ++ events) := by
  refine Emits.bind (p := (spendEscrowOffchain B store id arkTx unsignedCheckpoints
    partyCps).run) ?_ _
  rw [spendEscrowOffchain]
  apply (returns_inContext returns_load).emits_bind
  apply emits_check_bind valid
  apply returns_newToken.emits_bind
  exact (returns_inContext returns_save).emits_bind rest

variable (store) in
/-- **From the start to the submit**: a call with something to submit gets there. -/
theorem Source.emits {call : Call} {found : Except Error (Option PendingSpend)}
    {pending : PendingSpend} {arkTx : Psbt} {unsignedCheckpoints : List Psbt}
    {partyCps : List (List Psbt)}
    (source : Source B call found pending arkTx unsignedCheckpoints partyCps) :
    ∃ h firstAttempt, Found call h found ∧ Quiet h ∧ ∀ events,
      Emits (submitAndFinalize B store pending arkTx unsignedCheckpoints partyCps
        firstAttempt).run events →
      Emits (call.program B store) (h ++ events) := by
  cases source with
  | fresh bytes same loaded valid =>
      subst same loaded
      exact ⟨_, true, by simp [Found, Call.id], ⟨by simp, by simp⟩, fun events rest =>
        emits_call_fresh bytes valid rest⟩
  | resumed loaded proceeds resubmittable =>
      subst loaded
      exact ⟨_, false, List.prefix_rfl, ⟨by simp, by simp⟩, fun events rest =>
        emits_call_found store proceeds (emits_resumeRecorded_submitting resubmittable rest)⟩

/-! ## Whole runs -/

/-- The record is marked: by the backend's own operation, or after a look at what is there. -/
def markTrace (store : SpendStore) (existing spend : PendingSpend) : History :=
  if store.overridesSaveIf then [.sent (.saveIf spend), .answered (.saveIf spend) (.ok true)]
  else [.sent (.load spend.id), .answered (.load spend.id) (.ok (some existing)),
    .sent (.save spend), .answered (.save spend) (.ok ())]

theorem returns_saveIf {existing spend : PendingSpend}
    (mine : existing.matchesToken spend.token = true) :
    Fallible.Returns (saveIf store spend) (markTrace store existing spend) true := by
  rw [saveIf, markTrace]
  cases store.overridesSaveIf with
  | true => exact Returns.request (I := interface) _ _
  | false =>
      have written : Fallible.Returns (do save spend; return true)
        [.sent (.save spend), .answered (.save spend) (.ok ())] true := returns_save.bind (.done _)
      refine returns_load.bind ?_
      dsimp only
      rw [if_pos mine]
      exact written

theorem returns_finalize {arkTxid : Txid} {finalCheckpoints : List Psbt} :
    Fallible.Returns (finalize arkTxid finalCheckpoints)
      [.sent (.finalize arkTxid finalCheckpoints),
        .answered (.finalize arkTxid finalCheckpoints) (.finished (.ok ()))] () :=
  Returns.map (Returns.request (I := interface) (.finalize arkTxid finalCheckpoints)
    (.finished (.ok ()))) _

theorem returns_finalizeAndRecord {pending existing : PendingSpend} {arkTxid : Txid}
    {finalCheckpoints : List Psbt} (mine : existing.matchesToken pending.token = true) :
    Fallible.Returns (finalizeAndRecord store pending arkTxid finalCheckpoints)
      ([.sent (.finalize arkTxid finalCheckpoints),
        .answered (.finalize arkTxid finalCheckpoints) (.finished (.ok ()))] ++
          markTrace store existing (finalizedRecord pending)) arkTxid := by
  have mine' : existing.matchesToken (finalizedRecord pending).token = true := mine
  have marked : Fallible.Returns ((fun _ => arkTxid) <$> inContext "recording finalized spend"
      (saveIf store (finalizedRecord pending)))
      (markTrace store existing (finalizedRecord pending)) arkTxid :=
    (returns_inContext (returns_saveIf mine')).map fun _ => arkTxid
  exact (returns_inContext returns_finalize).bind marked

/-- The save of an upgraded record, the finalize, and the mark. -/
def finishTrace (store : SpendStore) (pending : PendingSpend) (arkTxid : Txid)
    (finalCheckpoints : List Psbt) : History :=
  upgradeTrace pending arkTxid finalCheckpoints ++
    [.answered (.finalize arkTxid finalCheckpoints) (.finished (.ok ()))] ++
      markTrace store pending (finalizedRecord pending)

theorem returns_upgradeAndFinalize {pending : PendingSpend} {arkTxid : Txid}
    {finalCheckpoints : List Psbt} :
    Fallible.Returns (upgradeAndFinalize store pending arkTxid finalCheckpoints)
      (finishTrace store pending arkTxid finalCheckpoints) arkTxid := by
  have mine : pending.matchesToken pending.token = true := by simp [PendingSpend.matchesToken]
  have split : finishTrace store pending arkTxid finalCheckpoints =
      [.sent (.save pending), .answered (.save pending) (.ok ())] ++
        (([.sent (.finalize arkTxid finalCheckpoints),
          .answered (.finalize arkTxid finalCheckpoints) (.finished (.ok ()))] ++
            markTrace store pending (finalizedRecord pending)) ++ []) := by
    simp [finishTrace, upgradeTrace]
  rw [upgradeAndFinalize, split]
  apply returns_save.attempt.bind
  apply (returns_finalizeAndRecord mine).attempt.bind
  exact .done _

theorem returns_submitAndFinalize {pending : PendingSpend} {arkTx : Psbt}
    {unsignedCheckpoints : List Psbt} {partyCps : List (List Psbt)} {firstAttempt : Bool}
    {reply : SubmitReply} {canonical : Psbt} {finalCheckpoints : List Psbt}
    (passes : Passes B pending arkTx unsignedCheckpoints partyCps reply canonical
      finalCheckpoints) :
    Fallible.Returns
      (submitAndFinalize B store pending arkTx unsignedCheckpoints partyCps firstAttempt)
      (submitTrace arkTx unsignedCheckpoints reply canonical ++
        finishTrace store (upgradedRecord B pending canonical finalCheckpoints)
          (B.computeTxid arkTx.unsignedTx) finalCheckpoints)
      (B.computeTxid arkTx.unsignedTx) := by
  obtain ⟨serverCheckpoints, restored, merged⟩ := passes.merged
  rw [submitAndFinalize]
  apply (returns_submitInternal passes.verified restored).attempt.bind
  apply returns_check_bind (ensure_eq_ok_iff.mpr (by simpa using passes.sameTxid))
  apply returns_check_bind merged
  exact returns_upgradeAndFinalize

/-- A fresh call loads nothing and saves its record. -/
def freshTrace (B : BitcoinLib) (id : String) (arkTx : Psbt) (unsignedCheckpoints : List Psbt)
    (partyCps : List (List Psbt)) (bytes : Vector UInt8 16) : History :=
  let record := freshRecord B id arkTx unsignedCheckpoints partyCps (PendingSpend.newToken bytes)
  [.sent (.load id), .answered (.load id) (.ok none), .sent .newToken, .answered .newToken bytes,
    .sent (.save record), .answered (.save record) (.ok ())]

theorem returns_call_fresh {id : String} {arkTx : Psbt} {unsignedCheckpoints : List Psbt}
    {partyCps : List (List Psbt)} (bytes : Vector UInt8 16) {events : History} {txid : Txid}
    (valid : validateCheckpoints unsignedCheckpoints partyCps = .ok ())
    (rest : Fallible.Returns (submitAndFinalize B store (freshRecord B id arkTx unsignedCheckpoints
      partyCps (PendingSpend.newToken bytes)) arkTx unsignedCheckpoints partyCps true) events
      txid) :
    Returns ((Call.spend id arkTx unsignedCheckpoints partyCps).program B store)
      (freshTrace B id arkTx unsignedCheckpoints partyCps bytes ++ events) (.ok (some txid)) := by
  refine Fallible.Returns.map (x := spendEscrowOffchain B store id arkTx unsignedCheckpoints
    partyCps) ?_ some
  rw [spendEscrowOffchain]
  apply (returns_inContext returns_load).bind
  apply returns_check_bind valid
  apply returns_newToken.bind
  exact (returns_inContext returns_save).bind rest

/-! ## Calls that end -/

section Ends

variable {pending : PendingSpend}

/-- An action returns, and then what follows it ends. -/
theorem returns_bind {α β : Type} {y : Action α} {f : α → Action β}
    {events events' : History} {a : α} {r : Except Error β} (first : Fallible.Returns y events a)
    (rest : Returns (f a).run events' r) : Returns (y >>= f).run (events ++ events') r := by
  rw [ExceptT.run_bind]
  exact Returns.bind first rest

theorem ends_check_bind {α β : Type} {r : Except Error α} {a : α} {f : α → Action β}
    {events : History} {b : Except Error β} (ok : r = .ok a) (rest : Returns (f a).run events b) :
    Returns (check r >>= f).run events b := by
  subst ok
  exact rest

/-- A call that finds a record ends as its resumption does. -/
theorem ends_call_found {call : Call} {events : History} {r : Except Error Txid}
    (proceeds : Proceeds B call pending)
    (rest : Returns (resumeRecorded B store pending).run events r) :
    Returns (call.program B store)
      ([.sent (.load call.id), .answered (.load call.id) (.ok (some pending))] ++ events)
      (r.map some) := by
  have mapped {y : Action Txid} {events : History} (ends : Returns y.run events r) :
      Returns (some <$> y).run events (r.map some) := by
    rw [ExceptT.run_map]
    exact ends.map _
  cases call with
  | spend id mergedArkTx unsignedCheckpoints partySignedCheckpoints =>
      refine mapped (y := spendEscrowOffchain B store id mergedArkTx unsignedCheckpoints
        partySignedCheckpoints) ?_
      rw [spendEscrowOffchain]
      refine returns_bind (returns_inContext returns_load) ?_
      exact ends_check_bind (ensure_eq_ok_iff.mpr (by simpa [Proceeds] using proceeds)) rest
  | resume id =>
      show Returns (resumePendingSpend B store id).run _ _
      rw [resumePendingSpend]
      refine returns_bind (returns_inContext returns_load) ?_
      exact mapped rest

theorem ends_resumeRecorded_submitting {events : History} {arkTx : Psbt}
    {unsignedCheckpoints : List Psbt} {partyCps : List (List Psbt)} {r : Except Error Txid}
    (resubmittable : Resubmittable B pending arkTx unsignedCheckpoints partyCps)
    (rest : Returns (submitAndFinalize B store pending arkTx unsignedCheckpoints partyCps
      false).run events r) : Returns (resumeRecorded B store pending).run events r := by
  obtain ⟨arkTxid, parsed⟩ := resubmittable.parsed
  rw [resumeRecorded]
  apply ends_check_bind (by simpa using parsed)
  rw [resubmittable.stage]
  show Returns (resumeSubmitting B store pending).run events r
  rw [resumeSubmitting]
  apply ends_check_bind resubmittable.decoded
  apply ends_check_bind resubmittable.unsigned
  exact ends_check_bind resubmittable.parties rest

theorem ends_resumeRecorded_submitted {events : History} {arkTxid : Txid}
    {evidence canonical : Psbt} {finalCheckpoints : List Psbt} {r : Except Error Txid}
    (finalizable : Finalizable B pending arkTxid evidence canonical finalCheckpoints)
    (rest : Returns (finalizeAndRecord store pending arkTxid finalCheckpoints).run events r) :
    Returns (resumeRecorded B store pending).run
      (.noted (.accepted 0 evidence evidence canonical) :: events) r := by
  rw [resumeRecorded]
  apply ends_check_bind (by simpa using finalizable.parsed)
  rw [finalizable.stage]
  show Returns (resumeSubmitted B store pending arkTxid).run _ _
  rw [resumeSubmitted]
  apply ends_check_bind finalizable.decoded
  apply ends_check_bind (ensure_eq_ok_iff.mpr (by simpa using finalizable.sameTxid))
  apply returns_bind (returns_verified finalizable.verified)
  apply ends_check_bind finalizable.checkpoints
  exact ends_check_bind (ensure_eq_ok_iff.mpr finalizable.spent) rest

theorem ends_resumeRecorded_finalized {arkTxid : Txid}
    (parsed : B.parseTxid pending.arkTxid = .ok arkTxid) (stage : pending.stage = .finalized) :
    Returns (resumeRecorded B store pending).run [] (.ok arkTxid) := by
  rw [resumeRecorded]
  apply ends_check_bind (by simpa using parsed)
  rw [stage]
  exact .done _

end Ends

/-! ## What a call can send, given what it sees -/

/-- What the call finds in the store, and how its submit ends. -/
structure Sees (call : Call) (h : History) (found : Except Error (Option PendingSpend))
    (outcome : Outcome SubmitReply) : Prop where
  loaded : Found call h found
  outcome : ∀ arkTx checkpointTxs outcome',
    .answered (.submit arkTx checkpointTxs) outcome' ∈ h → outcome' = outcome

theorem Found.unique {call : Call} {h : History}
    {found found' : Except Error (Option PendingSpend)} (here : Found call h found)
    (there : Found call h found') : found = found' := by
  have same := List.prefix_of_prefix_length_le here there (by simp)
  simpa using same.eq_of_length (by simp)

/-- What the call goes on from, if the history before a request is part of a run that sees
these answers. -/
theorem Sees.found_eq {call : Call} {before after : History} {request : Ask}
    {found found' : Except Error (Option PendingSpend)} {outcome : Outcome SubmitReply}
    (sees : Sees call (before ++ .sent request :: after) found outcome)
    (loaded : Found call before found') : found' = found :=
  Found.unique (List.IsPrefix.trans loaded (List.prefix_append _ _)) sees.loaded

theorem Sees.outcome_eq {call : Call} {before after : History} {request : Ask}
    {found : Except Error (Option PendingSpend)} {outcome outcome' : Outcome SubmitReply}
    (sees : Sees call (before ++ .sent request :: after) found outcome) {arkTx : Psbt}
    {checkpointTxs : List Psbt}
    (answered : .answered (.submit arkTx checkpointTxs) outcome' ∈ before) :
    outcome' = outcome :=
  sees.outcome _ _ _ (List.mem_append_left _ answered)

/-- What a call may finalize, given what it sees. -/
inductive Releases (B : BitcoinLib) (call : Call) (found : Except Error (Option PendingSpend))
    (outcome : Outcome SubmitReply) : Psbt → List Psbt → Prop where
  | accepted {pending : PendingSpend} {arkTx : Psbt} {unsignedCheckpoints : List Psbt}
      {partyCps : List (List Psbt)} {reply : SubmitReply} {canonical : Psbt}
      {finalCheckpoints : List Psbt} :
      outcome = .finished (.ok reply) →
      Source B call found pending arkTx unsignedCheckpoints partyCps →
      Passes B pending arkTx unsignedCheckpoints partyCps reply canonical finalCheckpoints →
      Releases B call found outcome arkTx finalCheckpoints
  | resumed {pending : PendingSpend} {arkTxid : Txid} {evidence canonical : Psbt}
      {finalCheckpoints : List Psbt} :
      found = .ok (some pending) →
      Proceeds B call pending →
      Finalizable B pending arkTxid evidence canonical finalCheckpoints →
      Releases B call found outcome evidence finalCheckpoints

/-- **A finalize is one of those the call may send.** -/
theorem releases_of_sent {call : Call} {before after : History}
    {found : Except Error (Option PendingSpend)} {outcome : Outcome SubmitReply}
    {arkTxid : Txid} {finalCheckpoints : List Psbt}
    (run : Emits (call.program B store)
      (before ++ .sent (.finalize arkTxid finalCheckpoints) :: after))
    (sees : Sees call (before ++ .sent (.finalize arkTxid finalCheckpoints) :: after) found
      outcome) :
    ∃ arkTx, Releases B call found outcome arkTx finalCheckpoints ∧
      B.computeTxid arkTx.unsignedTx = arkTxid ∧
      ∃ serverSigned canonical, .noted (.accepted 0 arkTx serverSigned canonical) ∈ before ∧
        Spend.verifyServerArkTxSig B arkTx serverSigned = .ok canonical := by
  obtain ⟨pending, finalizes⟩ := call_justified run _ _ _ rfl
  cases finalizes with
  | @accepted found' _ arkTx _ _ reply canonical _ accepts =>
      obtain rfl := sees.found_eq accepts.submits.loaded
      have same := sees.outcome_eq accepts.answered
      exact ⟨arkTx, .accepted same.symm accepts.submits.source accepts.passes, rfl,
        _, _, accepts.noted, accepts.passes.verified⟩
  | @resumed _ _ evidence canonical _ resumes =>
      have same := sees.found_eq resumes.loaded
      exact ⟨evidence, .resumed same.symm resumes.proceeds resumes.finalizable,
        resumes.finalizable.sameTxid, _, _, resumes.noted, resumes.finalizable.verified⟩

variable (store) in
/-- An accepted reply leads to the finalize, through a save of the upgraded record. -/
theorem Source.emits_accepted {call : Call} {found : Except Error (Option PendingSpend)}
    {pending : PendingSpend} {arkTx : Psbt} {unsignedCheckpoints : List Psbt}
    {partyCps : List (List Psbt)} {reply : SubmitReply} {canonical : Psbt}
    {finalCheckpoints : List Psbt}
    (source : Source B call found pending arkTx unsignedCheckpoints partyCps)
    (passes : Passes B pending arkTx unsignedCheckpoints partyCps reply canonical
      finalCheckpoints) :
    ∃ before, Emits (call.program B store) (before ++
        upgradeTrace (upgradedRecord B pending canonical finalCheckpoints)
          (B.computeTxid arkTx.unsignedTx) finalCheckpoints) ∧
      Sees call (before ++ upgradeTrace (upgradedRecord B pending canonical finalCheckpoints)
        (B.computeTxid arkTx.unsignedTx) finalCheckpoints) found (.finished (.ok reply)) ∧
      Found call before found ∧ ∀ index own serverSigned canonical',
        .noted (.accepted index own serverSigned canonical') ∈ before →
          index = 0 ∧ own = arkTx := by
  obtain ⟨h, firstAttempt, loaded, quiet, emits⟩ := source.emits store
  have run := emits _ (emits_submitAndFinalize passes)
  have unanswered := quiet.unanswered
  have unverified := quiet.unverified
  have loaded' : Found call (h ++ submitTrace arkTx unsignedCheckpoints reply canonical) found :=
    List.IsPrefix.trans loaded (List.prefix_append _ _)
  refine ⟨h ++ submitTrace arkTx unsignedCheckpoints reply canonical,
    by simpa using run, ⟨?_, ?_⟩, loaded', ?_⟩
  · exact List.IsPrefix.trans loaded' (List.prefix_append _ _)
  · intro arkTx' checkpointTxs' outcome' member
    simp [submitTrace, upgradeTrace, unanswered] at member
    obtain ⟨⟨rfl, rfl⟩, same⟩ := member
    simpa using same
  · intro index own serverSigned canonical' member
    simp [submitTrace, unverified] at member
    exact ⟨member.1, member.2.1⟩

variable (store) in
/-- **The call can send each of them**, in a run in which nothing else has been verified. -/
theorem Releases.emits {call : Call} {found : Except Error (Option PendingSpend)}
    {outcome : Outcome SubmitReply} {arkTx : Psbt} {finalCheckpoints : List Psbt}
    (releases : Releases B call found outcome arkTx finalCheckpoints) :
    ∃ before, Emits (call.program B store)
        (before ++ [.sent (.finalize (B.computeTxid arkTx.unsignedTx) finalCheckpoints)]) ∧
      Sees call (before ++ [.sent (.finalize (B.computeTxid arkTx.unsignedTx) finalCheckpoints)])
        found outcome ∧
      ∀ index own serverSigned canonical,
        .noted (.accepted index own serverSigned canonical) ∈ before →
          index = 0 ∧ own = arkTx := by
  cases releases with
  | @accepted pending _ _ _ _ canonical _ answer source passes =>
      subst answer
      obtain ⟨before, run, sees, _, noted⟩ := source.emits_accepted store passes
      refine ⟨before ++ [.sent (.save (upgradedRecord B pending canonical finalCheckpoints)),
          .answered (.save (upgradedRecord B pending canonical finalCheckpoints)) (.ok ())],
        by simpa [upgradeTrace] using run, by simpa [upgradeTrace] using sees, ?_⟩
      intro index own serverSigned canonical' member
      exact noted index own serverSigned canonical' (by simpa using member)
  | @resumed pending arkTxid _ canonical _ loaded proceeds finalizable =>
      subst loaded
      have run := emits_call_found store proceeds
        (emits_resumeRecorded_submitted finalizable)
      rw [finalizable.sameTxid]
      refine ⟨[.sent (.load call.id), .answered (.load call.id) (.ok (some pending)),
        .noted (.accepted 0 arkTx arkTx canonical)], run, ⟨by simp [Found], by simp⟩, ?_⟩
      intro index own serverSigned canonical' member
      simp at member
      exact ⟨member.1, member.2.1⟩

/-! ## Saves at stage `submitted` -/

/-- A record that a call may save at stage `submitted`, given what it sees. -/
inductive Upgrades (B : BitcoinLib) (call : Call) (found : Except Error (Option PendingSpend))
    (reply : SubmitReply) : PendingSpend → List Psbt → Prop where
  | intro {pending : PendingSpend} {arkTx : Psbt} {unsignedCheckpoints : List Psbt}
      {partyCps : List (List Psbt)} {canonical : Psbt} {finalCheckpoints : List Psbt} :
      Source B call found pending arkTx unsignedCheckpoints partyCps →
      Passes B pending arkTx unsignedCheckpoints partyCps reply canonical finalCheckpoints →
      Upgrades B call found reply (upgradedRecord B pending canonical finalCheckpoints)
        finalCheckpoints

theorem upgrades_of_sent {call : Call} {before after : History}
    {found : Except Error (Option PendingSpend)} {outcome : Outcome SubmitReply}
    {spend : PendingSpend}
    (run : Emits (call.program B store) (before ++ .sent (.save spend) :: after))
    (sees : Sees call (before ++ .sent (.save spend) :: after) found outcome)
    (stage : spend.stage = .submitted) :
    ∃ reply finalCheckpoints, outcome = .finished (.ok reply) ∧
      Upgrades B call found reply spend finalCheckpoints := by
  have saves : Saves B call before spend := call_justified run _ _ _ rfl
  cases saves with
  | fresh _ source =>
      cases source with
      | fresh => cases stage
      | resumed same => cases same
  | finalized => cases stage
  | upgraded accepts =>
      obtain rfl := sees.found_eq accepts.submits.loaded
      have same := sees.outcome_eq accepts.answered
      exact ⟨_, _, same.symm, .intro accepts.submits.source accepts.passes⟩

variable (store) in
theorem Upgrades.emits {call : Call} {found : Except Error (Option PendingSpend)}
    {reply : SubmitReply} {spend : PendingSpend} {finalCheckpoints : List Psbt}
    (upgrades : Upgrades B call found reply spend finalCheckpoints) :
    ∃ before, Emits (call.program B store) (before ++ [.sent (.save spend)]) ∧
      Sees call (before ++ [.sent (.save spend)]) found (.finished (.ok reply)) := by
  cases upgrades with
  | intro source passes =>
      obtain ⟨before, run, sees, loaded, _⟩ := source.emits_accepted store passes
      refine ⟨before, run.of_prefix (by simp [upgradeTrace]), ⟨?_, ?_⟩⟩
      · exact List.IsPrefix.trans loaded (List.prefix_append _ _)
      · intro arkTx checkpointTxs outcome' member
        refine sees.outcome arkTx checkpointTxs outcome' (List.mem_append_left _ ?_)
        simpa using member

end Client
end ArkadeEscrow
