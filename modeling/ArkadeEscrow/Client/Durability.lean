import ArkadeEscrow.Client.Attempt
import ArkadeEscrow.Client.Desk
import ArkadeEscrow.Reference

/-!
# No submitted spend is forgotten

Whatever fails and wherever a call breaks off, a desk keeps the record of a submit that the
server may have accepted. The invariant of a desk is `Remembers`: the record belongs to an
attempt that has written it, and an attempt that has submitted and was not rejected is the
one in the store. `Serving` is what holds during a call, `Serving.permits` says which requests
keep it, and `accepted_submit_remembered` is the result for all reachable worlds.
-/

set_option autoImplicit false

namespace ArkadeEscrow
namespace Client

open Interaction Program

/-! ## What a desk remembers -/

/-- The record is one that the attempt has written. -/
def RecordOf (B : BitcoinLib) (id : String) (log : AttemptLog) (record : PendingSpend) : Prop :=
  ∃ arkTx unsignedCheckpoints partyCps bytes,
    log.call = .spend id arkTx unsignedCheckpoints partyCps ∧
    Call.WellFormed (.spend id arkTx unsignedCheckpoints partyCps) ∧
    log.first = some (freshRecord B id arkTx unsignedCheckpoints partyCps
      (PendingSpend.newToken bytes)) ∧
    Written B (freshRecord B id arkTx unsignedCheckpoints partyCps (PendingSpend.newToken bytes))
      arkTx unsignedCheckpoints partyCps (fun reply => reply ∈ log.replies) record

/-- **The invariant of a desk.** The record in the store is one that its attempt has written,
every attempt that has submitted and was not rejected is the one in the store, and what was
submitted is what was recorded first. -/
structure Remembers (B : BitcoinLib) (id : String) (d : Desk) : Prop where
  belongs : ∀ record author, d.stored = some (record, author) →
    ∃ a log, author = some a ∧ d.attempts[a]? = some log ∧ RecordOf B id log record
  kept : ∀ (a : Nat) (log : AttemptLog), d.attempts[a]? = some log → log.sent ≠ [] →
    log.rejected = false → ∃ record, d.stored = some (record, some a)
  same : ∀ (a : Nat) (log : AttemptLog), d.attempts[a]? = some log → ∀ T ∈ log.sent,
    ∃ first, log.first = some first ∧ first.arkTxid = B.txidToString T

/-- Requests of a call stay on its own desk, and every desk remembers. -/
def remembering (B : BitcoinLib) (id : String) : Discipline interface Desk where
  allow _ request := request.key id = id
  keep := Remembers B id

/-- During a call of the attempt `a`: nothing in the store belongs to another attempt. -/
structure Serving (B : BitcoinLib) (id : String) (a : Nat) (log : AttemptLog) (d : Desk) :
    Prop where
  remembers : Remembers B id d
  attempt : d.attempt = some a
  present : d.attempts[a]? = some log
  only : ∀ record author, d.stored = some (record, author) → author = some a

variable {B : BitcoinLib} {store : SpendStore} {id : String} {a : Nat} {log : AttemptLog}
  {d : Desk}

theorem Serving.recordOf (serving : Serving B id a log d) {record : PendingSpend}
    {author : Option Nat} (stored : d.stored = some (record, author)) :
    RecordOf B id log record := by
  obtain ⟨a', log', same, present, record⟩ := serving.remembers.belongs _ _ stored
  have author := serving.only _ _ stored
  obtain rfl : a' = a := Option.some.inj (same.symm.trans author)
  obtain rfl : log' = log := Option.some.inj (present.symm.trans serving.present)
  exact record

/-- An attempt that has submitted and stands is the attempt of the call. -/
theorem Serving.eq_of_sent (serving : Serving B id a log d) {a' : Nat} {log' : AttemptLog}
    (present : d.attempts[a']? = some log') (sent : log'.sent ≠ [])
    (standing : log'.rejected = false) : a' = a := by
  obtain ⟨record, stored⟩ := serving.remembers.kept a' log' present sent standing
  exact Option.some.inj (serving.only _ _ stored)

/-! ## Steps that keep the invariant -/

/-- The attempt's own record may be written. -/
theorem Serving.save (serving : Serving B id a log d) {record : PendingSpend}
    (own : RecordOf B id log record) :
    Serving B id a log { d with stored := some (record, d.attempt) } where
  remembers :=
    { belongs := by
        intro record' author same
        cases same
        exact ⟨a, log, serving.attempt, serving.present, own⟩
      kept := by
        intro a' log' present sent standing
        obtain rfl := serving.eq_of_sent present sent standing
        exact ⟨record, by rw [serving.attempt]⟩
      same := serving.remembers.same }
  attempt := serving.attempt
  present := serving.present
  only := by
    intro record' author same
    cases same
    exact serving.attempt

/-- After a rejection the record may be removed. -/
theorem Serving.remove (serving : Serving B id a log d) (rejected : log.rejected = true) :
    Serving B id a log { d with stored := none } where
  remembers :=
    { belongs := by
        rintro record author ⟨⟩
      kept := by
        intro a' log' present sent standing
        obtain rfl := serving.eq_of_sent present sent standing
        obtain rfl : log' = log := Option.some.inj (present.symm.trans serving.present)
        rw [rejected] at standing
        cases standing
      same := serving.remembers.same }
  attempt := serving.attempt
  present := serving.present
  only := by
    rintro record author ⟨⟩

/-- The log of the attempt may be extended, if what it then says is true. -/
theorem Serving.onAttempt (serving : Serving B id a log d) {f : AttemptLog → AttemptLog}
    (belongs : ∀ record author, d.stored = some (record, author) → RecordOf B id (f log) record)
    (kept : (f log).sent ≠ [] → (f log).rejected = false →
      ∃ record, d.stored = some (record, some a))
    (same : ∀ T ∈ (f log).sent,
      ∃ first, (f log).first = some first ∧ first.arkTxid = B.txidToString T) :
    Serving B id a (f log) (d.onAttempt f) := by
  have written : d.onAttempt f = { d with attempts := d.attempts.modify a f } := by
    rw [Desk.onAttempt, serving.attempt]
  have here : (d.attempts.modify a f)[a]? = some (f log) := by
    rw [List.getElem?_modify, serving.present]
    simp
  have there {a' : Nat} {log' : AttemptLog} (present : (d.attempts.modify a f)[a']? = some log') :
      (a' = a ∧ log' = f log) ∨ d.attempts[a']? = some log' := by
    by_cases own : a' = a
    · subst own
      exact .inl ⟨rfl, Option.some.inj (present.symm.trans here)⟩
    · have other : ¬ a = a' := Ne.symm own
      exact .inr (by simpa [List.getElem?_modify, other] using present)
  rw [written]
  refine ⟨⟨?_, ?_, ?_⟩, serving.attempt, here, serving.only⟩
  · intro record author stored
    exact ⟨a, f log, serving.only _ _ stored, here, belongs _ _ stored⟩
  · intro a' log' present sent standing
    rcases there present with ⟨rfl, rfl⟩ | before
    · exact kept sent standing
    · exact serving.remembers.kept a' log' before sent standing
  · intro a' log' present T member
    rcases there present with ⟨rfl, rfl⟩ | before
    · exact same T member
    · exact serving.remembers.same a' log' before T member

/-! ## Requests that keep the invariant -/

/-- What a call may still ask once its attempt has a record: to write a record of the attempt,
and to remove it after a rejection. -/
inductive Serves (B : BitcoinLib) (id : String) (log : AttemptLog) : Ask → Prop where
  | load : Serves B id log (.load id)
  | save {spend : PendingSpend} : RecordOf B id log spend → Serves B id log (.save spend)
  | saveIf {spend : PendingSpend} : RecordOf B id log spend → Serves B id log (.saveIf spend)
  | remove : log.rejected = true → Serves B id log (.remove id)
  | removeIf {token : String} : log.rejected = true → Serves B id log (.removeIf id token)
  | finalize (arkTxid : Txid) (checkpoints : List Psbt) :
      Serves B id log (.finalize arkTxid checkpoints)

theorem RecordOf.id_eq {record : PendingSpend} (own : RecordOf B id log record) :
    record.id = id := by
  obtain ⟨_, _, _, _, _, _, _, written⟩ := own
  exact written.same.1

theorem RecordOf.first_isSome {record : PendingSpend} (own : RecordOf B id log record) :
    ∃ first, log.first = some first := by
  obtain ⟨_, _, _, _, _, _, first, _⟩ := own
  exact ⟨_, first⟩

theorem Serves.key_eq {request : Ask} (serves : Serves B id log request) :
    request.key id = id := by
  cases serves with
  | save own => exact own.id_eq
  | saveIf own => exact own.id_eq
  | _ => rfl

theorem Serving.effect (serving : Serving B id a log d) {request : Ask}
    (serves : Serves B id log request) : Serving B id a log (d.effect request) := by
  cases serves with
  | load => exact serving
  | save own => exact serving.save own
  | saveIf own =>
      rw [Desk.effect]
      split
      · exact serving.save own
      · exact serving
  | remove rejected => exact serving.remove rejected
  | removeIf rejected =>
      rw [Desk.effect]
      split
      · exact serving.remove rejected
      · exact serving
  | finalize => exact serving

theorem Serving.onAttempt_eq_self (serving : Serving B id a log d) {f : AttemptLog → AttemptLog}
    (same : f log = log) : d.onAttempt f = d := by
  have unchanged : d.attempts.modify a f = d.attempts := by
    refine List.ext_getElem? fun i => ?_
    rw [List.getElem?_modify]
    by_cases own : a = i
    · subst own
      simp [serving.present, same]
    · simp [own]
  rw [Desk.onAttempt, serving.attempt]
  dsimp only
  rw [unchanged, ← serving.attempt]

/-- The first record of the attempt is not written again. -/
theorem Serving.sent_eq_self (serving : Serving B id a log d) {request : Ask}
    (serves : Serves B id log request) : d.sent B request = d := by
  cases serves with
  | save own =>
      obtain ⟨first, written⟩ := own.first_isSome
      apply serving.onAttempt_eq_self
      cases log
      cases written
      rfl
  | _ => rfl

/-- **These requests keep what holds during a call**, whatever the store answers and also if
the answer is lost. -/
theorem Serving.permits (serving : Serving B id a log d) {request : Ask}
    (serves : Serves B id log request) :
    Permits (ledger B) (remembering B id) request (fun _ => Serving B id a log) d := by
  have sent : (ledger B).sent d request = d := serving.sent_eq_self serves
  have effect := serving.effect serves
  have either {d' : Desk} (left : d' = d ∨ d' = d.effect request) : Serving B id a log d' := by
    rcases left with rfl | rfl
    · exact serving
    · exact effect
  rw [Permits, sent]
  refine ⟨serves.key_eq, serving.remembers, fun d' lost => (either lost).remembers, ?_⟩
  intro answer d' answered
  suffices after : Serving B id a log d' from ⟨after.remembers, after⟩
  cases serves with
  | load =>
      have loaded : d.loaded = d := by rw [Desk.loaded, serving.attempt]; rfl
      cases answer with
      | ok found => exact answered.2 ▸ loaded.symm ▸ serving
      | error e => exact answered ▸ serving
  | save own =>
      cases answer with
      | ok done => exact either (.inr answered)
      | error e => exact either answered
  | saveIf own =>
      cases answer with
      | ok done => exact either (.inr answered.2)
      | error e => exact either answered
  | remove rejected =>
      cases answer with
      | ok done => exact either (.inr answered)
      | error e => exact either answered
  | removeIf rejected =>
      cases answer with
      | ok done => exact either (.inr answered.2)
      | error e => exact either answered
  | finalize => exact either answered

/-- A program that asks nothing else is safe. -/
theorem Serving.safe (serving : Serving B id a log d) {α : Type} {p : Program interface α}
    {asks : Ask → Prop} (confined : Confined asks p)
    (serves : ∀ request, asks request → Serves B id log request) :
    Safe (ledger B) (remembering B id) p d :=
  confined.upholds (J := Serving B id a log)
    (fun request _ member here => here.permits (serves request member))
    (fun _ _ _ => trivial) serving

theorem serves_of_finalizeAsks {pending : PendingSpend} {arkTxid : Txid}
    {finalCheckpoints : List Psbt} (own : RecordOf B id log (finalizedRecord pending))
    {request : Ask} (asks : FinalizeAsks pending arkTxid finalCheckpoints request) :
    Serves B id log request := by
  cases asks with
  | finalize => exact .finalize _ _
  | mark mark =>
      cases mark with
      | own => exact .saveIf own
      | load => exact own.id_eq ▸ .load
      | save => exact .save own

/-! ## Calls -/

/-- A longer log keeps the attempt's records. -/
theorem RecordOf.mono {log' : AttemptLog} {record : PendingSpend} (own : RecordOf B id log record)
    (call : log'.call = log.call) (first : log'.first = log.first)
    (more : ∀ reply ∈ log.replies, reply ∈ log'.replies) : RecordOf B id log' record := by
  obtain ⟨arkTx, unsignedCheckpoints, partyCps, bytes, call', wellFormed, first', written⟩ := own
  exact ⟨arkTx, unsignedCheckpoints, partyCps, bytes, call.trans call', wellFormed,
    first.trans first', written.mono more⟩

section Submit

variable {arkTx : Psbt} {unsignedCheckpoints : List Psbt} {partyCps : List (List Psbt)}
  {bytes : Vector UInt8 16}
  (call : log.call = .spend id arkTx unsignedCheckpoints partyCps)
  (wellFormed : Call.WellFormed (.spend id arkTx unsignedCheckpoints partyCps))
  (first : log.first = some (freshRecord B id arkTx unsignedCheckpoints partyCps
    (PendingSpend.newToken bytes)))
include first

/-- The submit is entered in the log. -/
theorem Serving.submitted (serving : Serving B id a log d)
    (stored : ∃ record, d.stored = some (record, some a)) :
    Serving B id a (log.submitted (B.computeTxid arkTx.unsignedTx))
      (d.sent B (.submit arkTx unsignedCheckpoints)) := by
  refine serving.onAttempt (f := fun log => log.submitted (B.computeTxid arkTx.unsignedTx))
    (fun record author there => ?_) (fun _ _ => stored) ?_
  · exact (serving.recordOf there).mono rfl rfl fun _ member => member
  · intro T member
    rcases List.mem_cons.mp member with rfl | member
    · exact ⟨_, first, rfl⟩
    · exact serving.remembers.same a log serving.present T member

omit first in
/-- The answer is entered in the log. -/
theorem Serving.replied (serving : Serving B id a log d)
    (stored : ∃ record, d.stored = some (record, some a)) (outcome : Outcome SubmitReply) :
    Serving B id a (log.replied d.fresh outcome) (d.replied outcome) := by
  refine serving.onAttempt (f := fun log => log.replied d.fresh outcome)
    (fun record author there => ?_) (fun _ _ => stored) ?_
  · refine (serving.recordOf there).mono rfl rfl fun reply member => ?_
    unfold AttemptLog.replied
    dsimp only
    split
    · exact List.mem_cons_of_mem _ member
    · exact member
  · exact serving.remembers.same a log serving.present

include call wellFormed

/-- **The submit of a recorded attempt is safe**, in the fresh call and in a resumption. -/
theorem Serving.safe_submit (serving : Serving B id a log d)
    (stored : ∃ record, d.stored = some (record, some a)) {firstAttempt : Bool}
    (fresh : firstAttempt = true → d.fresh = true) :
    Safe (ledger B) (remembering B id)
      (submitAndFinalize B store (freshRecord B id arkTx unsignedCheckpoints partyCps
        (PendingSpend.newToken bytes)) arkTx unsignedCheckpoints partyCps firstAttempt).run d := by
  have sent : Serving B id a _ (d.sent B (.submit arkTx unsignedCheckpoints)) :=
    serving.submitted first stored
  have stored' : ∃ record,
      (d.sent B (.submit arkTx unsignedCheckpoints)).stored = some (record, some a) := by
    simpa [Desk.sent] using stored
  have fresh' : (d.sent B (.submit arkTx unsignedCheckpoints)).fresh = d.fresh := by
    simp [Desk.sent]
  refine safe_submitAndFinalize ⟨rfl, sent.remembers, ?_, ?_⟩
  · rintro d' (rfl | rfl)
    · exact sent.remembers
    · exact sent.remembers
  · rintro outcome d' rfl
    have replied := sent.replied stored' outcome
    refine ⟨replied.remembers, fun e same => ?_, ?_⟩
    · refine replied.safe (confined_submitFailed ..) fun request asks => ?_
      obtain ⟨isFirst, rejection, asks⟩ := asks
      have rejected : (log.rejected ||
          ((d.sent B (.submit arkTx unsignedCheckpoints)).fresh && rejects outcome)) = true := by
        rw [fresh', fresh isFirst, ← same, rejection]
        simp
      cases asks with
      | own => exact .removeIf rejected
      | load => exact .load
      | remove => exact .remove rejected
    · rintro reply canonical rfl verdict
      refine ⟨replied.remembers, fun finalCheckpoints passes => ?_⟩
      refine replied.safe (confined_upgradeAndFinalize ..) fun request asks => ?_
      cases asks with
      | save =>
          exact .save ⟨_, _, _, _, call, wellFormed, first,
            .upgraded List.mem_cons_self verdict passes.merged⟩
      | finalize asks =>
          refine serves_of_finalizeAsks ?_ asks
          exact ⟨_, _, _, _, call, wellFormed, first,
            .finalized List.mem_cons_self verdict passes.merged⟩

end Submit

/-- **A resumption is safe**: it finds a record of the attempt and goes on with it. -/
theorem Serving.safe_resume (trips : B.PsbtRoundTrips) (serving : Serving B id a log d)
    {pending : PendingSpend} (stored : d.stored = some (pending, some a)) :
    Safe (ledger B) (remembering B id) (resumeRecorded B store pending).run d := by
  obtain ⟨arkTx, unsignedCheckpoints, partyCps, bytes, call, wellFormed, first, written⟩ :=
    serving.recordOf stored
  refine safe_resumeRecorded ?_ ?_
  · intro evidence canonical stage _
    refine ⟨serving.remembers, fun arkTxid finalCheckpoints _ => ?_⟩
    refine serving.safe (confined_finalizeAndRecord ..) fun request asks => ?_
    refine serves_of_finalizeAsks ?_ asks
    exact ⟨_, _, _, _, call, wellFormed, first, written.finalize rfl stage⟩
  · intro arkTx' unsignedCheckpoints' partyCps' resubmittable
    obtain rfl := written.eq_first resubmittable.stage
    obtain ⟨rfl, rfl, rfl⟩ := resubmittable.eq_of_freshRecord trips wellFormed
    exact serving.safe_submit call wellFormed first ⟨_, stored⟩ (by simp)

/-- A call that finds a record joins its attempt. -/
theorem Remembers.join (remembers : Remembers B id d) {record : PendingSpend}
    {author : Option Nat} (stored : d.stored = some (record, author)) (call : Call) :
    ∃ a log, author = some a ∧ Serving B id a log (d.begin call).loaded := by
  obtain ⟨a, log, rfl, present, own⟩ := remembers.belongs _ _ stored
  have loaded : (d.begin call).loaded = { d.begin call with attempt := some a } := by
    simp [Desk.loaded, Desk.begin, stored]
  refine ⟨a, log, rfl, ?_⟩
  rw [loaded]
  refine ⟨⟨remembers.belongs, remembers.kept, remembers.same⟩, rfl, present, ?_⟩
  intro record' author' stored'
  have same := stored'.symm.trans stored
  cases same
  rfl

/-- A call that finds nothing begins an attempt. -/
theorem Remembers.beginAttempt (remembers : Remembers B id d) (stored : d.stored = none)
    (call : Call) :
    Serving B id d.attempts.length ⟨call, none, [], false, []⟩ (d.begin call).loaded ∧
      (d.begin call).loaded.stored = none ∧ (d.begin call).loaded.fresh = true := by
  have loaded : (d.begin call).loaded =
      ⟨none, d.attempts ++ [⟨call, none, [], false, []⟩], some call, some d.attempts.length,
        true⟩ := by
    simp [Desk.loaded, Desk.begin, Desk.beginAttempt, stored]
  have before {a : Nat} {log : AttemptLog}
      (present : (d.attempts ++ [⟨call, none, [], false, []⟩])[a]? = some log)
      (sent : log.sent ≠ []) : d.attempts[a]? = some log := by
    rw [List.getElem?_append] at present
    split at present
    · exact present
    · have last := List.mem_of_getElem? present
      rw [List.mem_singleton] at last
      subst last
      exact absurd rfl sent
  rw [loaded]
  refine ⟨⟨⟨?_, ?_, ?_⟩, rfl, by simp, ?_⟩, rfl, rfl⟩
  · rintro record author ⟨⟩
  · intro a log present sent standing
    obtain ⟨record, there⟩ := remembers.kept a log (before present sent) sent standing
    rw [stored] at there
    cases there
  · intro a log present T member
    exact remembers.same a log (before present (List.ne_nil_of_mem member)) T member
  · rintro record author ⟨⟩

/-- **A fresh call is safe**: it saves its record before it submits. -/
theorem Serving.safe_fresh {arkTx : Psbt} {unsignedCheckpoints : List Psbt}
    {partyCps : List (List Psbt)}
    (wellFormed : Call.WellFormed (.spend id arkTx unsignedCheckpoints partyCps))
    (serving : Serving B id a ⟨.spend id arkTx unsignedCheckpoints partyCps, none, [], false, []⟩ d)
    (stored : d.stored = none) (fresh : d.fresh = true) :
    Permits (ledger B) (remembering B id) .newToken (fun bytes s =>
      Permits (ledger B) (remembering B id) (.save (freshRecord B id arkTx unsignedCheckpoints
          partyCps (PendingSpend.newToken bytes))) (fun saved s' => saved = .ok () →
        Safe (ledger B) (remembering B id) (submitAndFinalize B store (freshRecord B id arkTx
          unsignedCheckpoints partyCps (PendingSpend.newToken bytes)) arkTx unsignedCheckpoints
          partyCps true).run s') s) d := by
  refine ⟨rfl, serving.remembers, ?_, ?_⟩
  · rintro d' (rfl | rfl)
    · exact serving.remembers
    · exact serving.remembers
  intro bytes d' token
  have same : d' = d := by rcases token with rfl | rfl <;> rfl
  subst same
  let record := freshRecord B id arkTx unsignedCheckpoints partyCps (PendingSpend.newToken bytes)
  let log : AttemptLog :=
    ⟨.spend id arkTx unsignedCheckpoints partyCps, some record, [], false, []⟩
  have sent : Serving B id a log (d'.sent B (.save record)) := by
    refine serving.onAttempt (f := fun log => log.written record) (fun _ _ there => ?_)
      (fun sent => absurd rfl sent) (fun T member => ?_)
    · rw [stored] at there
      cases there
    · cases member
  have own : RecordOf B id log record :=
    ⟨arkTx, unsignedCheckpoints, partyCps, bytes, rfl, wellFormed, rfl, .fresh⟩
  have saved := sent.save own
  refine ⟨serving.remembers, rfl, sent.remembers, ?_, ?_⟩
  · rintro d'' (rfl | rfl)
    · exact sent.remembers
    · exact saved.remembers
  · intro answer d'' answered
    cases answer with
    | error e =>
        refine ⟨?_, by simp⟩
        rcases answered with rfl | rfl
        · exact sent.remembers
        · exact saved.remembers
    | ok done =>
        obtain rfl := answered
        refine ⟨saved.remembers, fun _ => ?_⟩
        refine saved.safe_submit rfl wellFormed rfl ⟨record, ?_⟩ fun _ => ?_
        · exact congrArg (fun author => some (record, author)) sent.attempt
        · exact (Desk.onAttempt_fresh d' _).trans fresh

/-- **Every call keeps its desk in order.** -/
theorem Remembers.safe_call (trips : B.PsbtRoundTrips) {call : Call}
    (wellFormed : call.WellFormed) (remembers : Remembers B call.id d) :
    Safe (ledger B) (remembering B call.id) (call.program B store) (d.begin call) := by
  have begun : Remembers B call.id (d.begin call) :=
    ⟨remembers.belongs, remembers.kept, remembers.same⟩
  refine Client.safe_call ⟨rfl, begun, ?_, ?_⟩
  · rintro d' (rfl | rfl)
    · exact begun
    · exact begun
  intro answer d' answered
  cases answer with
  | error e =>
      obtain rfl := answered
      exact ⟨begun, by simp, by simp⟩
  | ok found =>
      obtain ⟨same, rfl⟩ := answered
      replace same : found = d.stored.map Prod.fst := same
      cases stored : d.stored with
      | some entry =>
          obtain ⟨record, author⟩ := entry
          obtain ⟨a, log, rfl, serving⟩ := remembers.join stored call
          obtain rfl : found = some record := by simp [same, stored]
          refine ⟨serving.remembers, ?_, by simp⟩
          rintro _ ⟨⟩ _
          refine serving.safe_resume trips (?_ : (d.begin call).loaded.stored = _)
          simp [Desk.loaded, Desk.begin, stored]
      | none =>
          obtain ⟨serving, nothing, fresh⟩ := remembers.beginAttempt stored call
          obtain rfl : found = none := by simp [same, stored]
          refine ⟨serving.remembers, by simp, ?_⟩
          rintro id' arkTx unsignedCheckpoints partyCps rfl _ _
          exact serving.safe_fresh wellFormed nothing fresh

/-! ## The theorem -/

/-- The record holds the data of its stage: what the fresh call was given, or the verified
co-signed ark transaction and the merge of the server's reply. -/
def HoldsStageData (B : BitcoinLib) (log : AttemptLog) (record : PendingSpend) : Prop :=
  ∃ id arkTx unsignedCheckpoints partyCps,
    log.call = .spend id arkTx unsignedCheckpoints partyCps ∧
    match record.stage with
    | .submitting =>
        record.arkTx = some (B.psbtToBase64 arkTx) ∧
        record.unsignedCheckpoints = unsignedCheckpoints.map B.psbtToBase64 ∧
        record.partySignedCheckpoints = partyCps.map fun cps => cps.map B.psbtToBase64
    | .submitted | .finalized =>
        ∃ reply ∈ log.replies, ∃ canonical finalCheckpoints,
          Spend.verifyServerArkTxSig B arkTx reply.signedArkTx = .ok canonical ∧
          Merges B unsignedCheckpoints partyCps reply finalCheckpoints ∧
          record.serverSignedArkTx = some (B.psbtToBase64 canonical) ∧
          record.signedCheckpoints = finalCheckpoints.map B.psbtToBase64

theorem RecordOf.holdsStageData {record : PendingSpend} (own : RecordOf B id log record) :
    HoldsStageData B log record := by
  obtain ⟨arkTx, unsignedCheckpoints, partyCps, bytes, call, _, _, written⟩ := own
  refine ⟨id, arkTx, unsignedCheckpoints, partyCps, call, ?_⟩
  cases written with
  | fresh => exact ⟨rfl, rfl, rfl⟩
  | upgraded reply verdict merged => exact ⟨_, reply, _, _, verdict, merged, rfl, rfl⟩
  | finalized reply verdict merged => exact ⟨_, reply, _, _, verdict, merged, rfl, rfl⟩

theorem service_maintains (trips : B.PsbtRoundTrips) :
    (service B store).Maintains (remembering B) where
  own _ _ _ own := own
  calls call _ remembers :=
    ⟨⟨remembers.belongs, remembers.kept, remembers.same⟩,
      remembers.safe_call trips call.property⟩

theorem remembers_empty : Remembers B id Desk.empty where
  belongs := by
    rintro record author ⟨⟩
  kept := by
    intro a log present
    simp [Desk.empty] at present
  same := by
    intro a log present
    simp [Desk.empty] at present

/-- **No accepted submit is ever forgotten.** In every world that the service can reach from
an empty store: if an attempt has submitted `T` and its fresh call was not definitively
rejected, the store holds a record of this attempt, for `T` and with the original token, and
the record holds the data of its stage. -/
theorem accepted_submit_remembered (trips : B.PsbtRoundTrips)
    {w : World interface String Desk (Except Error (Option Txid))}
    (reach : (service B store).Reachable idle w) (id : String) (a : Nat) (log : AttemptLog)
    (attempt : (w.cell id).attempts[a]? = some log) (T : Txid) (sent : T ∈ log.sent)
    (standing : log.rejected = false) :
    ∃ record first, (w.cell id).stored = some (record, some a) ∧ record.id = id ∧
      record.arkTxid = B.txidToString T ∧ log.first = some first ∧
      record.token = first.token ∧ HoldsStageData B log record := by
  have remembers : Remembers B id (w.cell id) :=
    Service.reachable_keep (service_maintains trips) reach (fun _ => rfl)
      (fun _ => remembers_empty) id
  obtain ⟨record, stored⟩ := remembers.kept a log attempt (List.ne_nil_of_mem sent) standing
  obtain ⟨a', log', same, present, own⟩ := remembers.belongs _ _ stored
  obtain rfl := Option.some.inj same
  obtain rfl : log' = log := Option.some.inj (present.symm.trans attempt)
  obtain ⟨first, written, txid⟩ := remembers.same a log' attempt T sent
  have data := own.holdsStageData
  have recordId := own.id_eq
  obtain ⟨_, _, _, _, _, _, first', written'⟩ := own
  obtain rfl := Option.some.inj (first'.symm.trans written)
  obtain ⟨_, arkTxid, token⟩ := written'.same
  exact ⟨record, _, stored, recordId, arkTxid.trans txid, written, token, data⟩

/-- A spend of two checkpoints that is waiting for the answer to its submit. -/
theorem accepted_submit_remembered_sample :
    ∃ w, (service .reference ⟨true, true⟩).Reachable idle w ∧
      ∃ log ∈ (w.cell "escrow").attempts, log.sent ≠ [] ∧
        ∃ record author, (w.cell "escrow").stored = some (record, author) ∧
          HoldsStageData .reference log record := by
  have valid : validateCheckpoints Sample.pair [Sample.pair] = .ok () :=
    validateCheckpoints_self (List.cons_ne_nil _ _)
  have wellFormed : Call.WellFormed (.spend "escrow" (Sample.arkTx Sample.pair) Sample.pair
      [Sample.pair]) := by
    simp [Call.WellFormed, Sample.pair]
  obtain ⟨w, reach, cell⟩ := exists_submitted (B := .reference) ⟨true, true⟩ "escrow"
    (Sample.arkTx Sample.pair) (.replicate 16 0) wellFormed valid
  obtain ⟨log, attempt, sent, standing⟩ : ∃ log, (w.cell "escrow").attempts[0]? = some log ∧
      log.sent = [BitcoinLib.reference.computeTxid (Sample.arkTx Sample.pair).unsignedTx] ∧
      log.rejected = false := by
    rw [cell]
    exact ⟨_, rfl, rfl, rfl⟩
  obtain ⟨record, first, stored, -, -, -, -, data⟩ :=
    accepted_submit_remembered BitcoinLib.psbtRoundTrips_reference reach "escrow" 0 log attempt _
      (sent ▸ List.mem_cons_self) standing
  refine ⟨w, reach, log, List.mem_of_getElem? attempt, ?_, record, _, stored, data⟩
  rw [sent]
  exact List.cons_ne_nil _ _

end Client
end ArkadeEscrow
