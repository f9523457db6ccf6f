import ArkadeEscrow.Client.Attempt
import ArkadeEscrow.Client.Shelf
import ArkadeEscrow.Reference

/-!
# Crash and resume

A fresh call may crash anywhere, and once its record is in the store any calls on the id may
take the spend up again and crash in their turn (`Interrupted`). The store may also fail to
do what it was asked, or do it and fail to say so. Throughout, the record in the store is one
that the uninterrupted run has written, or would have (`Submission.Written`), so the
messages are those of the uninterrupted run, and a call that returns has finished it
(`interrupted_refines`).
-/

set_option autoImplicit false

namespace ArkadeEscrow
namespace Client

open Interaction Program
open Service (Follows)

/-- The arguments of a fresh call, the random bytes of its token, and the answer that every
submit gets. -/
structure Submission where
  id : String
  arkTx : Psbt
  unsignedCheckpoints : List Psbt
  partyCps : List (List Psbt)
  bytes : Vector UInt8 16
  outcome : Outcome SubmitReply

namespace Submission

/-- The fresh call. -/
def call (S : Submission) : Call := .spend S.id S.arkTx S.unsignedCheckpoints S.partyCps

/-- What the call is given and what the server returns is well-formed. -/
structure WellFormed (S : Submission) : Prop where
  call : S.call.WellFormed
  replied : ∀ reply, S.outcome = .finished (.ok reply) → reply.WellFormed

/-- Which answers the world around the store gives. -/
def Repeats (S : Submission) : (request : Ask) → request.Answer → Prop
  | .newToken, bytes => bytes = S.bytes
  | .submit _ _, outcome => outcome = S.outcome
  | _, _ => True

/-- The shelf of the id, when every submit gets the same answer. -/
def observer (S : Submission) : Observer interface Shelf := (shelf S.id).restrict S.Repeats

variable (B : BitcoinLib) (store : SpendStore)

/-- The fresh call, and after every crash a call on the id that finds a record: a resumption,
or a spend with any arguments. -/
inductive Interrupted (S : Submission) :
    List (Event interface) → Thread interface (Except Error (Option Txid)) → Shelf → Prop where
  | first {events : List (Event interface)} {t : Thread interface (Except Error (Option Txid))}
      {s : Shelf} : Evolves (S.call.program B store) events t → Follows S.observer none events s →
      Interrupted S events t s
  | again {h events : List (Event interface)}
      {t t' : Thread interface (Except Error (Option Txid))} {s s' : Shelf} {call : Call}
      {record : PendingSpend} : Interrupted S h t s → Ends S.observer t s (some record) →
      call.id = S.id → Evolves (call.program B store) events t' →
      Follows S.observer (some record) events s' → Interrupted S (h ++ events) t' s'

/-- The answers of a store and a server that do not fail. The finalize has an answer of its
own. -/
def reply (S : Submission) (finalized : Outcome Unit) (s : Shelf) :
    (request : Ask) → request.Answer
  | .newToken => S.bytes
  | .load id => .ok (if id = S.id then s else none)
  | .save _ | .remove _ => .ok ()
  | .removeIf id token => .ok (decide (id = S.id) && s.holds token)
  | .saveIf spend => .ok (decide (spend.id = S.id) && s.holds spend.token)
  | .submit _ _ => S.outcome
  | .finalize _ _ => finalized

/-- The environment of the uninterrupted run. -/
def reliable (S : Submission) (finalized : Outcome Unit) : Environment interface Shelf where
  answer s request := (S.reply finalized s request, s.effect S.id request)

/-- The uninterrupted run. -/
def straight (S : Submission) (finalized : Outcome Unit) :
    WholeRun interface (Except Error (Option Txid)) Shelf :=
  (S.call.program B store).runIn (S.reliable finalized) none

/-! ## What the calls write and send -/

/-- The record of the fresh call. -/
def firstRecord (S : Submission) : PendingSpend :=
  freshRecord B S.id S.arkTx S.unsignedCheckpoints S.partyCps (PendingSpend.newToken S.bytes)

/-- The reply is co-signed and merges to these checkpoints. -/
def Accepted (S : Submission) (canonical : Psbt) (finalCheckpoints : List Psbt) : Prop :=
  ∃ reply, S.outcome = .finished (.ok reply) ∧
    Spend.verifyServerArkTxSig B S.arkTx reply.signedArkTx = .ok canonical ∧
    Merges B S.unsignedCheckpoints S.partyCps reply finalCheckpoints

/-- A record of the uninterrupted run. -/
def Written (S : Submission) : PendingSpend → Prop :=
  Client.Written B (S.firstRecord B) S.arkTx S.unsignedCheckpoints S.partyCps
    fun reply => S.outcome = .finished (.ok reply)

/-- The record after an accepted reply. -/
def upgraded (S : Submission) (canonical : Psbt) (finalCheckpoints : List Psbt) : PendingSpend :=
  upgradedRecord B (S.firstRecord B) canonical finalCheckpoints

/-- The requests of the uninterrupted run, and the reads and writes that go with them. -/
def Repeated (S : Submission) : Ask → Prop
  | .submit arkTx unsignedCheckpoints =>
      arkTx = S.arkTx ∧ unsignedCheckpoints = S.unsignedCheckpoints
  | .finalize arkTxid finalCheckpoints =>
      arkTxid = B.computeTxid S.arkTx.unsignedTx ∧ ∃ canonical,
        S.Accepted B canonical finalCheckpoints
  | .save spend | .saveIf spend => S.Written B spend
  | .remove _ | .removeIf _ _ => False
  | .newToken | .load _ => True

/-- The store holds a record of the uninterrupted run. -/
def Holding (S : Submission) (s : Shelf) : Prop := ∃ record, s = some record ∧ S.Written B record

/-- The spend is finalized and marked. -/
def Finished (S : Submission) (arkTxid : Txid) (s : Shelf) : Prop :=
  arkTxid = B.computeTxid S.arkTx.unsignedTx ∧ ∃ canonical finalCheckpoints,
    S.Accepted B canonical finalCheckpoints ∧
    s = some (finalizedRecord (S.upgraded B canonical finalCheckpoints))

/-- Only these requests are sent, and only these records are in the store. -/
def discipline (S : Submission) : Discipline interface Shelf where
  allow _ request := S.Repeated B request
  keep s := ∀ record, s = some record → S.Written B record

variable {B store} {S : Submission}

theorem Accepted.written {canonical : Psbt} {finalCheckpoints : List Psbt}
    (accepted : S.Accepted B canonical finalCheckpoints) :
    S.Written B (S.upgraded B canonical finalCheckpoints) ∧
      S.Written B (finalizedRecord (S.upgraded B canonical finalCheckpoints)) := by
  obtain ⟨reply, answer, verdict, merged⟩ := accepted
  exact ⟨.upgraded answer verdict merged, .finalized answer verdict merged⟩

theorem Holding.kept {s : Shelf} (holding : S.Holding B s) : (S.discipline B).keep s := by
  obtain ⟨record, rfl, written⟩ := holding
  rintro _ ⟨⟩
  exact written

/-- **A request leaves a record of the run in the store.** -/
theorem Holding.effect {s : Shelf} (holding : S.Holding B s) {request : Ask}
    (repeated : S.Repeated B request) : S.Holding B (s.effect S.id request) := by
  cases request with
  | save spend =>
      rw [Shelf.effect]
      split
      · exact ⟨spend, rfl, repeated⟩
      · exact holding
  | saveIf spend =>
      rw [Shelf.effect]
      split
      · exact ⟨spend, rfl, repeated⟩
      · exact holding
  | remove id => exact repeated.elim
  | removeIf id token => exact repeated.elim
  | newToken => exact holding
  | load id => exact holding
  | submit arkTx checkpointTxs => exact holding
  | finalize arkTxid signedCheckpointTxs => exact holding

theorem permits_repeated (request : Ask) {s : Shelf} (repeated : S.Repeated B request)
    (holding : S.Holding B s) :
    Permits S.observer (S.discipline B) request (fun answer s' => S.Repeats request answer ∧
      s.Answered S.id request answer s' ∧ S.Holding B s') s := by
  refine Permits.restrict (permits_shelf repeated holding.kept (holding.effect repeated).kept ?_)
  intro answer s' reply possible
  refine ⟨possible, reply, ?_⟩
  rcases reply.cases with rfl | rfl
  · exact holding
  · exact holding.effect repeated

/-- Every record of the run is the attempt's own. -/
theorem Holding.matchesToken {record spend : PendingSpend} (written : S.Written B record)
    (written' : S.Written B spend) : record.matchesToken spend.token = true := by
  have token := Client.Written.same written
  have token' := Client.Written.same written'
  simp [PendingSpend.matchesToken, token.2.2, token'.2.2]

/-- Saving a record of the run, on the condition that the stored one is the attempt's. -/
theorem upholds_mark {spend : PendingSpend} {s : Shelf} (written : S.Written B spend)
    (holding : S.Holding B s) :
    (saveIf store spend).run.Upholds S.observer (S.discipline B)
      (Settles (fun _ s' => s' = some spend) (S.Holding B)) s := by
  have mine : spend.id = S.id := (Client.Written.same written).1
  refine upholds_saveIf (fun _ => ?_) (fun _ => ?_)
  · refine (permits_repeated (.saveIf spend) written holding).mono
      fun answer s' ⟨_, reply, holding'⟩ => ?_
    cases answer with
    | error e => exact holding'
    | ok marked =>
        obtain ⟨record, rfl, stored⟩ := holding
        obtain ⟨_, rfl⟩ := reply
        simp [Settles, Shelf.effect, mine, Shelf.holds, Holding.matchesToken stored written]
  · refine (permits_repeated (.load spend.id) trivial holding).mono
      fun answer s' ⟨_, reply, holding'⟩ => ?_
    cases answer with
    | error e => exact holding'
    | ok found =>
        obtain ⟨same, rfl⟩ := reply
        obtain rfl := same mine
        constructor
        · intro other
          obtain ⟨record, rfl, stored⟩ := holding
          simp [Holding.matchesToken stored written] at other
        · intro existing _ _
          refine (permits_repeated (.save spend) written holding).mono
            fun saved s'' ⟨_, reply', holding''⟩ => ?_
          cases saved with
          | error e => exact holding''
          | ok saved =>
              obtain rfl : s'' = _ := reply'
              simp [Settles, Shelf.effect, mine]

/-- Finalizing an accepted merge, and marking its record. -/
theorem upholds_finalize {canonical : Psbt} {finalCheckpoints : List Psbt} {s : Shelf}
    (accepted : S.Accepted B canonical finalCheckpoints) (holding : S.Holding B s) :
    (finalizeAndRecord store (S.upgraded B canonical finalCheckpoints)
      (B.computeTxid S.arkTx.unsignedTx) finalCheckpoints).run.Upholds S.observer (S.discipline B)
      (Settles (S.Finished B) (S.Holding B)) s := by
  refine upholds_finalizeAndRecord ((permits_repeated
    (.finalize (B.computeTxid S.arkTx.unsignedTx) finalCheckpoints) ⟨rfl, canonical, accepted⟩
    holding).mono fun outcome s' ⟨_, _, holding'⟩ => ⟨fun _ => holding', fun _ => ?_⟩)
  refine (upholds_mark accepted.written.2 holding').mono fun marked s'' settled => ?_
  cases marked with
  | error e => exact settled
  | ok marked => exact ⟨rfl, canonical, finalCheckpoints, accepted, settled⟩

/-- Recording an accepted merge, and finalizing it. -/
theorem upholds_upgrade {canonical : Psbt} {finalCheckpoints : List Psbt} {s : Shelf}
    (accepted : S.Accepted B canonical finalCheckpoints) (holding : S.Holding B s) :
    (upgradeAndFinalize store (S.upgraded B canonical finalCheckpoints)
      (B.computeTxid S.arkTx.unsignedTx) finalCheckpoints).run.Upholds S.observer (S.discipline B)
      (Settles (S.Finished B) (S.Holding B)) s := by
  have saves {s : Shelf} (holding : S.Holding B s) :=
    permits_repeated (.save (S.upgraded B canonical finalCheckpoints)) accepted.written.1 holding
  refine upholds_upgradeAndFinalize ((saves holding).mono fun saved s' ⟨_, _, holding'⟩ => ?_)
  cases saved with
  | ok saved => exact upholds_finalize accepted holding'
  | error e =>
      refine (upholds_finalize accepted holding').mono fun result s'' settled => ?_
      cases result with
      | ok txid => exact settled
      | error e' => exact (saves settled).mono fun _ _ ⟨_, _, holding''⟩ => holding''

/-! ## The calls -/

variable (kept : rejects S.outcome = false)
include kept

/-- Submitting the arguments of the fresh call, under its record. -/
theorem achieves_submit {firstAttempt : Bool} {s : Shelf} (holding : S.Holding B s) :
    Fallible.Achieves S.observer (S.discipline B) (S.Finished B)
      (submitAndFinalize B store (S.firstRecord B) S.arkTx S.unsignedCheckpoints S.partyCps
        firstAttempt) s := by
  refine achieves_submitAndFinalize ((permits_repeated (.submit S.arkTx S.unsignedCheckpoints)
    ⟨rfl, rfl⟩ holding).mono fun outcome s' ⟨same, _, holding'⟩ => ⟨fun e rejected => ?_, ?_⟩)
  · obtain rfl : outcome = S.outcome := same
    refine (confined_submitFailed ..).upholds (J := S.Holding B) ?_ (fun _ _ _ => trivial) holding'
    rintro request s'' ⟨_, definitive, _⟩ _
    rw [rejected, kept] at definitive
    cases definitive
  · intro reply canonical answer verdict
    refine ⟨holding'.kept, fun finalCheckpoints passes => ?_⟩
    have accepted : S.Accepted B canonical finalCheckpoints :=
      ⟨reply, same.symm.trans answer, verdict, passes.merged⟩
    exact achieves_of_settles (upholds_upgrade accepted holding')

/-- **Resuming a record of the run** finishes the run or leaves another record of it. -/
theorem achieves_resume (trips : B.PsbtRoundTrips) (txids : B.TxidRoundTrips)
    (wellFormed : S.WellFormed) {record : PendingSpend} (written : S.Written B record) :
    Fallible.Achieves S.observer (S.discipline B) (S.Finished B) (resumeRecorded B store record)
      (some record) := by
  have holding : S.Holding B (some record) := ⟨record, rfl, written⟩
  have named : ∀ {arkTxid}, B.parseTxid record.arkTxid = .ok arkTxid →
      arkTxid = B.computeTxid S.arkTx.unsignedTx := by
    intro arkTxid parsed
    rw [(Client.Written.same written).2.1] at parsed
    exact Except.ok.inj (parsed.symm.trans (txids _))
  refine achieves_resumeRecorded ?_ ?_ ?_
  · intro arkTxid stage parsed
    refine ⟨named parsed, ?_⟩
    cases written with
    | fresh => cases stage
    | upgraded => cases stage
    | finalized answer verdict merged => exact ⟨_, _, ⟨_, answer, verdict, merged⟩, rfl⟩
  · intro evidence canonical stage _
    refine ⟨holding.kept, fun arkTxid finalCheckpoints finalizable => ?_⟩
    obtain rfl := named finalizable.parsed
    cases written with
    | fresh => cases stage
    | finalized => cases stage
    | upgraded answer verdict merged =>
        have checkpoints := finalizable.checkpoints
        have encoded := merged.wellFormed (wellFormed.replied _ answer)
        rw [upgradedRecord, decodeCheckpoints_map trips _ encoded] at checkpoints
        obtain rfl := Except.ok.inj checkpoints
        exact achieves_of_settles (upholds_finalize ⟨_, answer, verdict, merged⟩ holding)
  · intro arkTx unsignedCheckpoints partyCps resubmittable
    obtain rfl := Client.Written.eq_first written resubmittable.stage
    obtain ⟨rfl, rfl, rfl⟩ := resubmittable.eq_of_freshRecord trips wellFormed.call
    exact achieves_submit kept holding

/-- What a call has done when it returns. -/
def Returned (B : BitcoinLib) (S : Submission) (result : Option Txid) (s : Shelf) : Prop :=
  ∃ arkTxid, result = some arkTxid ∧ S.Finished B arkTxid s

variable (store) in
/-- **A call that finds a record of the run** resumes it. -/
theorem upholds_again (trips : B.PsbtRoundTrips) (txids : B.TxidRoundTrips)
    (wellFormed : S.WellFormed) {call : Call} (same : call.id = S.id) {record : PendingSpend}
    (written : S.Written B record) :
    (call.program B store).Upholds S.observer (S.discipline B)
      (fun r s => ∀ result, r = .ok result → S.Returned B result s) (some record) := by
  have holding : S.Holding B (some record) := ⟨record, rfl, written⟩
  refine upholds_call ((permits_repeated (.load call.id) trivial holding).mono
    fun answer s' ⟨_, reply, _⟩ => ?_)
  cases answer with
  | error e => exact ⟨by rintro _ _ ⟨⟩, by rintro _ ⟨⟩, by rintro _ _ _ _ _ ⟨⟩⟩
  | ok found =>
      obtain ⟨loaded, rfl⟩ := reply
      obtain rfl := loaded same
      refine ⟨by rintro _ _ ⟨⟩, ?_, by rintro _ _ _ _ _ ⟨⟩⟩
      rintro _ ⟨⟩ _
      exact (achieves_resume kept trips txids wellFormed written).mono
        fun r s'' finished txid same => ⟨txid, rfl, finished txid same⟩

variable (B store) in
/-- **The fresh call** writes the first record of the run. -/
theorem upholds_first :
    (S.call.program B store).Upholds S.observer (S.discipline B)
      (fun r s => ∀ result, r = .ok result → S.Returned B result s) none := by
  have nothing : (S.discipline B).keep none := by rintro _ ⟨⟩
  have written : S.Written B (S.firstRecord B) := .fresh
  have saved : Shelf.effect S.id none (.save (S.firstRecord B)) = some (S.firstRecord B) :=
    Shelf.effect_save rfl none
  have holding : S.Holding B (some (S.firstRecord B)) := ⟨_, rfl, written⟩
  refine upholds_call (Permits.restrict (permits_shelf trivial nothing nothing
    fun answer s' reply _ => ?_))
  refine ⟨by rintro _ ⟨⟩, fun pending loaded => ?_, ?_⟩
  · subst loaded
    cases reply.1 rfl
  · rintro id arkTx unsignedCheckpoints partyCps ⟨⟩ rfl _
    obtain ⟨_, rfl⟩ := reply
    refine Permits.restrict (permits_shelf trivial nothing nothing fun bytes s₂ reply same => ?_)
    obtain rfl : s₂ = none := by simpa [Shelf.effect] using reply.cases
    obtain rfl : bytes = S.bytes := same
    refine Permits.restrict (permits_shelf written nothing (saved ▸ holding.kept)
      fun answer s₃ reply _ => ?_)
    rintro rfl
    obtain rfl : s₃ = _ := reply
    rw [firstRecord] at saved
    rw [saved]
    exact (achieves_submit kept holding).mono
      fun r s'' finished txid same => ⟨txid, rfl, finished txid same⟩

/-- **What holds throughout an interrupted spend**: the invariant of its thread, and that
every request has been allowed. -/
theorem Interrupted.upholds (trips : B.PsbtRoundTrips) (txids : B.TxidRoundTrips)
    (wellFormed : S.WellFormed) {h : List (Event interface)}
    {t : Thread interface (Except Error (Option Txid))} {s : Shelf}
    (run : Interrupted B store S h t s) :
    t.Upholds S.observer (S.discipline B)
      (fun r s => ∀ result, r = .ok result → S.Returned B result s) s ∧
      ∀ request, .sent request ∈ h → S.Repeated B request := by
  have nothing : (S.discipline B).keep none := by rintro _ ⟨⟩
  have sends {events : List (Event interface)} {p : Program interface (Except Error (Option Txid))}
      {t : Thread interface (Except Error (Option Txid))} {s s' : Shelf}
      {post : Except Error (Option Txid) → Shelf → Prop} (run : Evolves p events t)
      (begins : (S.discipline B).keep s) (upholds : p.Upholds S.observer (S.discipline B) post s)
      (follows : Follows S.observer s events s') {request : Ask} (sent : .sent request ∈ events) :
      S.Repeated B request := by
    obtain ⟨before, after, rfl⟩ := List.append_of_mem sent
    obtain ⟨s₁, first, _⟩ := follows_append.mp follows
    exact Emits.allowed ⟨t, run⟩ begins upholds first
  induction run with
  | first run follows =>
      have upholds := upholds_first B store kept
      exact ⟨run.upholds_of_follows nothing upholds follows,
        fun request sent => sends run nothing upholds follows sent⟩
  | again _ ends same run follows ih =>
      obtain ⟨thread, before⟩ := ih
      have begins := ends.keep thread
      have upholds := upholds_again store kept trips txids wellFormed same (begins _ rfl)
      refine ⟨run.upholds_of_follows begins upholds follows, fun request sent => ?_⟩
      rcases List.mem_append.mp sent with sent | sent
      · exact before request sent
      · exact sends run begins upholds follows sent

/-! ## The uninterrupted run -/

omit kept

variable (B S) in
theorem follows_fresh (finalized : Outcome Unit) :
    Follows (S.reliable finalized).observer none
      (freshTrace B S.id S.arkTx S.unsignedCheckpoints S.partyCps S.bytes)
      (some (S.firstRecord B)) := by
  have loaded : (S.reliable finalized).answer none (.load S.id) = (.ok none, none) := by
    simp [reliable, reply, Shelf.effect]
  have saved : (S.reliable finalized).answer none (.save (S.firstRecord B)) =
      (.ok (), some (S.firstRecord B)) := by
    simp [reliable, reply, Shelf.effect, firstRecord, freshRecord]
  exact .sent _ <| .answered _ loaded <| .sent _ <| .answered _ rfl <| .sent _ <|
    .answered _ saved <| .nil _

theorem follows_submit (finalized : Outcome Unit) {reply : SubmitReply}
    (answer : S.outcome = .finished (.ok reply)) (canonical : Psbt) (s : Shelf) :
    Follows (S.reliable finalized).observer s
      (submitTrace S.arkTx S.unsignedCheckpoints reply canonical) s := by
  have submitted : (S.reliable finalized).answer s (.submit S.arkTx S.unsignedCheckpoints) =
      (.finished (.ok reply), s) := by
    simp [reliable, Submission.reply, Shelf.effect, answer]
  exact .sent _ <| .answered _ submitted <| .noted _ <| .nil _

variable (B S) in
theorem follows_upgrade (finalized : Outcome Unit) (canonical : Psbt)
    (finalCheckpoints : List Psbt) (s : Shelf) :
    Follows (S.reliable finalized).observer s
      (upgradeTrace (S.upgraded B canonical finalCheckpoints) (B.computeTxid S.arkTx.unsignedTx)
        finalCheckpoints)
      (some (S.upgraded B canonical finalCheckpoints)) := by
  have saved : (S.reliable finalized).answer s (.save (S.upgraded B canonical finalCheckpoints)) =
      (.ok (), some (S.upgraded B canonical finalCheckpoints)) := by
    simp [reliable, reply, Shelf.effect, upgraded, upgradedRecord, firstRecord, freshRecord]
  exact .sent _ <| .answered _ saved <| .sent _ <| .nil _

section World

variable {record spend pending : PendingSpend}

theorem follows_load {call : Call} (own : call.id = S.id) {events : History}
    {finalized : Outcome Unit} {s' : Shelf}
    (rest : Follows (S.reliable finalized).observer (some record) events s') :
    Follows (S.reliable finalized).observer (some record)
      ([.sent (.load call.id), .answered (.load call.id) (.ok (some record))] ++ events) s' := by
  have loaded : (S.reliable finalized).answer (some record) (.load call.id) =
      (.ok (some record), some record) := by
    simp [reliable, reply, Shelf.effect, own]
  exact .sent _ (.answered _ loaded rest)

theorem follows_marking (finalized : Outcome Unit) (own : spend.id = S.id)
    (mine : record.matchesToken spend.token = true) :
    Follows (S.reliable finalized).observer (some record) (markTrace store record spend)
      (some spend) := by
  rw [markTrace]
  split
  · have marked : (S.reliable finalized).answer (some record) (.saveIf spend) =
        (.ok true, some spend) := by
      simp [reliable, reply, Shelf.effect, own, Shelf.holds, mine]
    exact .sent _ <| .answered _ marked <| .nil _
  · have loaded : (S.reliable finalized).answer (some record) (.load spend.id) =
        (.ok (some record), some record) := by
      simp [reliable, reply, Shelf.effect, own]
    have saved : (S.reliable finalized).answer (some record) (.save spend) =
        (.ok (), some spend) := by
      simp [reliable, reply, Shelf.effect, own]
    exact .sent _ <| .answered _ loaded <| .sent _ <| .answered _ saved <| .nil _

/-- A record is finalized and marked. -/
theorem follows_finalizing (own : pending.id = S.id) (arkTxid : Txid)
    (finalCheckpoints : List Psbt) :
    Follows (S.reliable (.finished (.ok ()))).observer (some pending)
      ([.sent (.finalize arkTxid finalCheckpoints),
        .answered (.finalize arkTxid finalCheckpoints) (.finished (.ok ()))] ++
          markTrace store pending (finalizedRecord pending)) (some (finalizedRecord pending)) := by
  have finalized : (S.reliable (.finished (.ok ()))).answer (some pending)
      (.finalize arkTxid finalCheckpoints) = (.finished (.ok ()), some pending) := rfl
  exact .sent _ (.answered _ finalized (follows_marking _ own (by
    simp [PendingSpend.matchesToken, finalizedRecord])))

variable (store) in
/-- A record is upgraded, finalized and marked. -/
theorem follows_finish (own : pending.id = S.id) (arkTxid : Txid) (finalCheckpoints : List Psbt)
    (s : Shelf) :
    Follows (S.reliable (.finished (.ok ()))).observer s
      (finishTrace store pending arkTxid finalCheckpoints) (some (finalizedRecord pending)) := by
  have saved : (S.reliable (.finished (.ok ()))).answer s (.save pending) =
      (.ok (), some pending) := by
    simp [reliable, reply, Shelf.effect, own]
  exact .sent _ (.answered _ saved (follows_finalizing own arkTxid finalCheckpoints))

end World

variable (valid : validateCheckpoints S.unsignedCheckpoints S.partyCps = .ok ())
include valid

/-- **The uninterrupted run submits.** -/
theorem submit_mem_straight (finalized : Outcome Unit) :
    .sent (.submit S.arkTx S.unsignedCheckpoints) ∈ (S.straight B store finalized).events := by
  obtain ⟨t, run⟩ : Emits (S.call.program B store) _ := emits_call_fresh S.bytes valid emits_submit
  have sent : Follows (S.reliable finalized).observer (some (S.firstRecord B))
      [.sent (.submit S.arkTx S.unsignedCheckpoints)] (some (S.firstRecord B)) := .sent _ (.nil _)
  have follows := follows_append.mpr ⟨_, follows_fresh B S finalized, sent⟩
  exact (run.prefix_runIn follows).subset (by simp)

/-- **The uninterrupted run finalizes** what has been accepted. -/
theorem finalize_mem_straight (finalized : Outcome Unit) {canonical : Psbt}
    {finalCheckpoints : List Psbt} (accepted : S.Accepted B canonical finalCheckpoints) :
    .sent (.finalize (B.computeTxid S.arkTx.unsignedTx) finalCheckpoints) ∈
      (S.straight B store finalized).events := by
  obtain ⟨reply, answer, verdict, merged⟩ := accepted
  obtain ⟨t, run⟩ : Emits (S.call.program B store) _ := emits_call_fresh S.bytes valid
    (emits_submitAndFinalize (passes_freshRecord verdict merged))
  have follows := follows_append.mpr ⟨_, follows_fresh B S finalized,
    follows_append.mpr ⟨_, follows_submit finalized answer canonical _,
      follows_upgrade B S finalized canonical finalCheckpoints _⟩⟩
  exact (run.prefix_runIn follows).subset (by simp [upgradeTrace])

variable (store) in
/-- What has been accepted is finished, when store and server do not fail. -/
theorem exists_returns {canonical : Psbt} {finalCheckpoints : List Psbt}
    (accepted : S.Accepted B canonical finalCheckpoints) :
    ∃ events, Returns (S.call.program B store) events
        (.ok (some (B.computeTxid S.arkTx.unsignedTx))) ∧
      Follows (S.reliable (.finished (.ok ()))).observer none events
        (some (finalizedRecord (S.upgraded B canonical finalCheckpoints))) := by
  obtain ⟨reply, answer, verdict, merged⟩ := accepted
  have passes : Passes B (S.firstRecord B) S.arkTx S.unsignedCheckpoints S.partyCps reply canonical
    finalCheckpoints := passes_freshRecord verdict merged
  have run : Returns (S.call.program B store) _ _ :=
    returns_call_fresh S.bytes valid (returns_submitAndFinalize passes)
  let done : Outcome Unit := .finished (.ok ())
  have own : (S.upgraded B canonical finalCheckpoints).id = S.id := rfl
  have finish := follows_finish store own (B.computeTxid S.arkTx.unsignedTx) finalCheckpoints
    (some (S.firstRecord B))
  have follows := follows_append.mpr ⟨_, follows_fresh B S done,
    follows_append.mpr ⟨_, follows_submit done answer canonical _, finish⟩⟩
  exact ⟨_, run, follows⟩

variable (store) in
/-- **The uninterrupted run finishes** what has been accepted. -/
theorem straight_eq {canonical : Psbt} {finalCheckpoints : List Psbt}
    (accepted : S.Accepted B canonical finalCheckpoints) :
    ∃ events, S.straight B store (.finished (.ok ())) =
      ⟨events, some (.ok (some (B.computeTxid S.arkTx.unsignedTx))),
        some (finalizedRecord (S.upgraded B canonical finalCheckpoints))⟩ := by
  obtain ⟨events, run, follows⟩ := S.exists_returns store valid accepted
  exact ⟨events, run.runIn_eq follows⟩

omit valid

variable (store) in
/-- A resumption finishes what has been accepted. -/
theorem exists_resumes (trips : B.PsbtRoundTrips) (txids : B.TxidRoundTrips)
    (wellFormed : S.WellFormed) {canonical : Psbt} {finalCheckpoints : List Psbt}
    (accepted : S.Accepted B canonical finalCheckpoints) :
    ∃ events, Returns ((Call.resume S.id).program B store) events
        (.ok (some (B.computeTxid S.arkTx.unsignedTx))) ∧
      Follows (S.reliable (.finished (.ok ()))).observer (some (S.firstRecord B)) events
        (some (finalizedRecord (S.upgraded B canonical finalCheckpoints))) := by
  obtain ⟨reply, answer, verdict, merged⟩ := accepted
  have passes : Passes B (S.firstRecord B) S.arkTx S.unsignedCheckpoints S.partyCps reply canonical
    finalCheckpoints := passes_freshRecord verdict merged
  have again : Resubmittable B (S.firstRecord B) S.arkTx S.unsignedCheckpoints S.partyCps :=
    resubmittable_freshRecord trips txids wellFormed.call _
  have run : Returns ((Call.resume S.id).program B store) _ _ := ends_call_found trivial
    (ends_resumeRecorded_submitting again (returns_submitAndFinalize passes))
  let done : Outcome Unit := .finished (.ok ())
  have own : (S.upgraded B canonical finalCheckpoints).id = S.id := rfl
  have finish := follows_finish store own (B.computeTxid S.arkTx.unsignedTx) finalCheckpoints
    (some (S.firstRecord B))
  exact ⟨_, run, follows_load rfl
    (follows_append.mpr ⟨_, follows_submit done answer canonical _, finish⟩)⟩

/-- The uninterrupted run is one of the runs that are considered here. -/
theorem admits_reliable {finalized : Outcome Unit} {s s' : Shelf} {events : List (Event interface)}
    (follows : Follows (S.reliable finalized).observer s events s') :
    Follows S.observer s events s' := by
  refine Follows.mono ?_ ?_ ?_ follows
  · exact fun _ _ => rfl
  · exact fun _ _ => rfl
  rintro s request answer s' ⟨⟩
  cases request with
  | newToken => exact ⟨rfl, .inl rfl⟩
  | load id => exact ⟨trivial, fun own => if_pos own, rfl⟩
  | save spend => exact ⟨trivial, rfl⟩
  | remove id => exact ⟨trivial, rfl⟩
  | removeIf id token => exact ⟨trivial, fun own => by simp [own], rfl⟩
  | saveIf spend => exact ⟨trivial, fun own => by simp [own], rfl⟩
  | submit arkTx checkpointTxs => exact ⟨rfl, .inl rfl⟩
  | finalize arkTxid signedCheckpointTxs => exact ⟨trivial, .inl rfl⟩

end Submission

/-- **Crash and resume refines the uninterrupted spend**: every message of an interrupted spend
is one of the uninterrupted run, and a call that returns `Ok` returns what that run returns and
leaves what it leaves, at stage `finalized`. -/
theorem interrupted_refines {B : BitcoinLib} {store : SpendStore} (trips : B.PsbtRoundTrips)
    (txids : B.TxidRoundTrips) {S : Submission} (wellFormed : S.WellFormed)
    (valid : validateCheckpoints S.unsignedCheckpoints S.partyCps = .ok ())
    (kept : rejects S.outcome = false) {h : List (Event interface)}
    {t : Thread interface (Except Error (Option Txid))} {s : Shelf}
    (run : S.Interrupted B store h t s) :
    (∀ finalized request, request.isMessage = true → .sent request ∈ h →
      .sent request ∈ (S.straight B store finalized).events) ∧
    ∀ result, t = .running (.done (.ok result)) →
      (S.straight B store (.finished (.ok ()))).result = some (.ok result) ∧
      (S.straight B store (.finished (.ok ()))).state = s ∧
      ∃ record, s = some record ∧ record.stage = .finalized := by
  obtain ⟨thread, sends⟩ := run.upholds kept trips txids wellFormed
  constructor
  · intro finalized request message sent
    have repeated := sends request sent
    cases request with
    | submit arkTx unsignedCheckpoints =>
        obtain ⟨rfl, rfl⟩ := repeated
        exact S.submit_mem_straight valid finalized
    | finalize arkTxid finalCheckpoints =>
        obtain ⟨rfl, canonical, accepted⟩ := repeated
        exact S.finalize_mem_straight valid finalized accepted
    | _ => cases message
  · rintro result rfl
    obtain ⟨_, rfl, rfl, canonical, finalCheckpoints, accepted, rfl⟩ := thread.2 result rfl
    obtain ⟨events, same⟩ := S.straight_eq store valid accepted
    rw [same]
    exact ⟨rfl, rfl, _, rfl, rfl⟩

/-- The first call crashes while it waits for the answer to its submit, and a resumption finishes
the spend. -/
theorem interrupted_refines_sample : ∃ (S : Submission) (h h' : List (Event interface))
    (t : Thread interface (Except Error (Option Txid))) (s s' : Shelf) (arkTxid : Txid),
    S.Interrupted BitcoinLib.reference ⟨true, true⟩ h t s ∧
    h.getLast? = some (.sent (.submit S.arkTx S.unsignedCheckpoints)) ∧
    S.Interrupted BitcoinLib.reference ⟨true, true⟩ (h ++ h')
      (.running (.done (.ok (some arkTxid)))) s' ∧
    (S.straight BitcoinLib.reference ⟨true, true⟩ (.finished (.ok ()))).state = s' := by
  let cp := Sample.checkpoint 1 ∅
  let reply : SubmitReply := ⟨Sample.cosigned [cp], [cp]⟩
  let S : Submission := ⟨"escrow", Sample.arkTx [cp], [cp], [[cp]], Vector.replicate 16 0,
    .finished (.ok reply)⟩
  have trips := BitcoinLib.psbtRoundTrips_reference
  have txids := BitcoinLib.txidRoundTrips_reference
  have wellFormed : S.WellFormed := by
    refine ⟨by simp [Submission.call, Call.WellFormed, S, cp], ?_⟩
    rintro _ ⟨⟩
    simp [SubmitReply.WellFormed, reply, cp]
  have valid : validateCheckpoints [cp] [[cp]] = .ok () := validateCheckpoints_self (by simp)
  obtain ⟨finalCheckpoints, merged⟩ := exists_merges_self (B := BitcoinLib.reference) [cp]
    (by simp [cp, Sample.checkpoint]) (Sample.cosigned [cp])
  have accepted : S.Accepted BitcoinLib.reference _ finalCheckpoints :=
    ⟨reply, rfl, Sample.verified_cosigned cp [], merged⟩
  -- the crash
  obtain ⟨t, submits⟩ : Emits (S.call.program BitcoinLib.reference ⟨true, true⟩) _ :=
    emits_call_fresh S.bytes valid emits_submit
  have waiting : Follows (S.reliable (.finished (.ok ()))).observer
      (some (S.firstRecord BitcoinLib.reference))
      [.sent (.submit S.arkTx S.unsignedCheckpoints)] _ := .sent _ (.nil _)
  have sent := follows_append.mpr ⟨_, S.follows_fresh BitcoinLib.reference _, waiting⟩
  have crashed := Submission.Interrupted.first submits (S.admits_reliable sent)
  -- the resumption
  obtain ⟨events, run, follows⟩ := S.exists_resumes ⟨true, true⟩ trips txids wellFormed accepted
  have resumed := crashed.again (.stop _ _) rfl run (S.admits_reliable follows)
  have refines := interrupted_refines trips txids wellFormed valid rfl resumed
  exact ⟨S, _, events, t, _, _, _, crashed, rfl, resumed, (refines.2 _ rfl).2.1⟩

end Client
end ArkadeEscrow
