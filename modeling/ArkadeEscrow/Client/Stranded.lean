import ArkadeEscrow.Client.Crashes
import ArkadeEscrow.Client.Outstanding
import ArkadeEscrow.Client.Recovery

/-!
# Retries, and spends that are stranded

The server gives the reply to a submit only once. If the reply is lost, the server holds the
inputs locked, and answers every submit after that with an error that is no definitive rejection.
The record is kept for an operator then, because nothing that the client can do finishes the spend.

This is the only way to get stuck (`retry_finishes_or_stranded`). Whatever calls were made before,
and wherever they broke off: a retry that is not disturbed finishes the spend, unless the server
holds it and the record does not say so.
-/

set_option autoImplicit false

namespace ArkadeEscrow
namespace Client

open Interaction Program
open Service (Follows)

/-- A spend that can be finished: its arguments are well-formed and accepted, and the reply that the
server has for it is well-formed and passes the checks. -/
structure FairSpend (B : BitcoinLib) where
  id : String
  arkTx : Psbt
  unsignedCheckpoints : List Psbt
  partyCps : List (List Psbt)
  reply : SubmitReply
  canonical : Psbt
  finalCheckpoints : List Psbt
  wellFormed : Call.WellFormed (.spend id arkTx unsignedCheckpoints partyCps)
  replied : reply.WellFormed
  valid : validateCheckpoints unsignedCheckpoints partyCps = .ok ()
  verified : Spend.verifyServerArkTxSig B arkTx reply.signedArkTx = .ok canonical
  merged : Merges B unsignedCheckpoints partyCps reply finalCheckpoints
  spent : checkpointsSpentBy B arkTx.unsignedTx reply.signedCheckpointTxs = true

/-- The record of an id, and whether the server holds the transaction. -/
abbrev Custody := Shelf × Bool

/-- The server holds the transaction, but its reply is not on record. -/
def Stranded (x : Custody) : Prop :=
  x.2 = true ∧ ∃ record, x.1 = some record ∧ record.stage = .submitting

namespace FairSpend

variable {B : BitcoinLib} {store : SpendStore}

section Definitions

variable (F : FairSpend B)

/-- The call that starts the spend. -/
def call : Call := .spend F.id F.arkTx F.unsignedCheckpoints F.partyCps

/-- The same call again, or a resumption. -/
def Calls (call : Call) : Prop := call = F.call ∨ call = .resume F.id

def txid : Txid := B.computeTxid F.arkTx.unsignedTx

/-- The record of a fresh call, with the random bytes of its token. -/
def firstRecord (bytes : Vector UInt8 16) : PendingSpend :=
  freshRecord B F.id F.arkTx F.unsignedCheckpoints F.partyCps (PendingSpend.newToken bytes)

/-- A record that a fresh call or a retry of it writes. -/
def Writes (bytes : Vector UInt8 16) : PendingSpend → Prop :=
  Client.Written B (F.firstRecord bytes) F.arkTx F.unsignedCheckpoints F.partyCps (· = F.reply)

/-- Which answers the server gives, and whether it holds the transaction then. One that holds it
does not reject it definitively. -/
def Replies (held : Bool) : (request : Ask) → request.Answer → Bool → Prop
  | .submit _ _, .finished (.ok reply), held' => held = false ∧ reply = F.reply ∧ held' = true
  | .submit _ _, outcome, held' =>
      (held = true → rejects outcome = false ∧ held' = true) ∧
        (rejects outcome = true → held' = false)
  | _, _, held' => held' = held

/-- What becomes of a transaction when the answer is lost. -/
def Loses (held : Bool) : Ask → Bool → Prop
  | .submit _ _, held' => held = true → held' = true
  | _, held' => held' = held

/-- A store that may fail, and a server that may fail and gives one reply. -/
def observer : Observer interface Custody where
  noted x _ := x
  sent x _ := x
  answered x request answer x' :=
    x.1.Answered F.id request answer x'.1 ∧ F.Replies x.2 request answer x'.2
  lost x request x' :=
    (x'.1 = x.1 ∨ x'.1 = x.1.effect F.id request) ∧ Loses x.2 request x'.2

/-- The record is one of the spend. Past the first stage the server holds the transaction, and
without a record it does not. -/
structure Kept (x : Custody) : Prop where
  written : ∀ record, x.1 = some record → ∃ bytes, F.Writes bytes record
  held : ∀ record, x.1 = some record → record.stage ≠ .submitting → x.2 = true
  free : x.1 = none → x.2 = false

/-- The record of the finished spend. -/
def lastRecord (bytes : Vector UInt8 16) : PendingSpend :=
  finalizedRecord (upgradedRecord B (F.firstRecord bytes) F.canonical F.finalCheckpoints)

/-- The spend, and how its submits are answered. -/
def submission (bytes : Vector UInt8 16) (outcome : Outcome SubmitReply) : Submission :=
  ⟨F.id, F.arkTx, F.unsignedCheckpoints, F.partyCps, bytes, outcome⟩

/-- How a server that does not fail answers a submit. -/
def outcome (duplicate : Error) (held : Bool) : Outcome SubmitReply :=
  .finished (if held then .error duplicate else .ok F.reply)

/-- A call that is not disturbed. -/
def undisturbed (store : SpendStore) (duplicate : Error) (bytes : Vector UInt8 16) (call : Call)
    (x : Custody) : WholeRun interface (Except Error (Option Txid)) Shelf :=
  (call.program B store).runIn
    ((F.submission bytes (F.outcome duplicate x.2)).reliable (.finished (.ok ()))) x.1

def keeping : Discipline interface Custody where
  allow _ _ := True
  keep := F.Kept

/-- What else may be asked, and keeps it so: writing a record of the spend, and removing it if the
server does not hold the transaction. -/
inductive Tends (held : Bool) : Ask → Prop where
  | newToken : Tends held .newToken
  | load (id : String) : Tends held (.load id)
  | finalize (arkTxid : Txid) (checkpoints : List Psbt) : Tends held (.finalize arkTxid checkpoints)
  | save {spend : PendingSpend} {bytes : Vector UInt8 16} : F.Writes bytes spend →
      (spend.stage ≠ .submitting → held = true) → Tends held (.save spend)
  | saveIf {spend : PendingSpend} {bytes : Vector UInt8 16} : F.Writes bytes spend →
      (spend.stage ≠ .submitting → held = true) → Tends held (.saveIf spend)
  | remove (id : String) : held = false → Tends held (.remove id)
  | removeIf (id token : String) : held = false → Tends held (.removeIf id token)

end Definitions

variable {F : FairSpend B} {x : Custody}

/-! ## The invariant -/

theorem Kept.empty : F.Kept (none, false) := ⟨nofun, nofun, fun _ => rfl⟩

theorem Tends.replies {held held' : Bool} {request : Ask} (tends : F.Tends held request)
    {answer : request.Answer} (replies : F.Replies held request answer held') : held' = held := by
  cases tends <;> exact replies

theorem Tends.loses {held held' : Bool} {request : Ask} (tends : F.Tends held request)
    (loses : Loses held request held') : held' = held := by
  cases tends <;> exact loses

theorem Kept.effect (kept : F.Kept x) {request : Ask} (tends : F.Tends x.2 request) :
    F.Kept (x.1.effect F.id request, x.2) := by
  have write {spend : PendingSpend} {bytes : Vector UInt8 16} (writes : F.Writes bytes spend)
      (held : spend.stage ≠ .submitting → x.2 = true) : F.Kept (some spend, x.2) :=
    ⟨by rintro _ ⟨⟩; exact ⟨bytes, writes⟩, by rintro _ ⟨⟩; exact held, nofun⟩
  have clear (free : x.2 = false) : F.Kept (none, x.2) := ⟨nofun, nofun, fun _ => free⟩
  cases tends with
  | save writes held =>
      rw [Shelf.effect]
      split
      · exact write writes held
      · exact kept
  | saveIf writes held =>
      rw [Shelf.effect]
      split
      · exact write writes held
      · exact kept
  | remove id free =>
      rw [Shelf.effect]
      split
      · exact clear free
      · exact kept
  | removeIf id token free =>
      rw [Shelf.effect]
      split
      · exact clear free
      · exact kept
  | _ => exact kept

/-- **These requests keep the record in order**, whatever becomes of them. -/
theorem Kept.permits (kept : F.Kept x) {request : Ask} (tends : F.Tends x.2 request) :
    Permits F.observer F.keeping request (fun answer x' =>
      x.1.Answered F.id request answer x'.1 ∧ F.Kept x' ∧ x'.2 = x.2) x := by
  have either {s' : Shelf} (left : s' = x.1 ∨ s' = x.1.effect F.id request) :
      F.Kept (s', x.2) := by
    rcases left with rfl | rfl
    · exact kept
    · exact kept.effect tends
  refine ⟨trivial, kept, ?_, ?_⟩
  · rintro ⟨s', held⟩ ⟨lost, loses⟩
    obtain rfl : held = x.2 := tends.loses loses
    exact either lost
  · rintro answer ⟨s', held⟩ ⟨reply, replies⟩
    obtain rfl : held = x.2 := tends.replies replies
    exact ⟨either reply.cases, reply, either reply.cases, rfl⟩

/-- A program that only asks such things is safe. -/
theorem Kept.safe (kept : F.Kept x) {α : Type} {p : Program interface α} {asks : Ask → Prop}
    (confined : Confined asks p) (tends : ∀ request, asks request → F.Tends x.2 request) :
    Safe F.observer F.keeping p x := by
  refine confined.upholds (J := fun x' => F.Kept x' ∧ x'.2 = x.2) ?_ (fun _ _ _ => trivial)
    ⟨kept, rfl⟩
  rintro request x' member ⟨kept', same⟩
  refine (kept'.permits (same ▸ tends request member)).mono ?_
  rintro answer x'' ⟨_, kept'', same'⟩
  exact ⟨kept'', same'.trans same⟩

/-! ## The parts of a call -/

variable {bytes : Vector UInt8 16} {pending : PendingSpend}

theorem tends_finalize {request : Ask} {held : Bool} {arkTxid : Txid}
    {finalCheckpoints : List Psbt} (asks : FinalizeAsks pending arkTxid finalCheckpoints request)
    (marked : F.Writes bytes (finalizedRecord pending)) (here : held = true) :
    F.Tends held request := by
  cases asks with
  | finalize => exact .finalize ..
  | mark asks =>
      cases asks with
      | own => exact .saveIf marked fun _ => here
      | load => exact .load _
      | save => exact .save marked fun _ => here

/-- **Submitting is safe**, under a record that is there. -/
theorem Kept.safe_submit (kept : F.Kept x) (stored : x.1 = some (F.firstRecord bytes))
    (firstAttempt : Bool) :
    Safe F.observer F.keeping (submitAndFinalize B store (F.firstRecord bytes) F.arkTx
      F.unsignedCheckpoints F.partyCps firstAttempt).run x := by
  have still (held : Bool) : F.Kept (x.1, held) := by
    refine ⟨kept.written, fun record here stage => ?_, fun nothing => ?_⟩
    · rw [stored] at here
      cases here
      exact absurd rfl stage
    · cases stored.symm.trans nothing
  refine safe_submitAndFinalize ⟨trivial, kept, ?_, ?_⟩
  · rintro ⟨s', held⟩ ⟨lost, _⟩
    obtain rfl : s' = x.1 := lost.elim (fun same => same) fun same => same
    exact still held
  rintro outcome ⟨s', held⟩ ⟨answered, replies⟩
  obtain rfl : s' = x.1 := answered.cases.elim (fun same => same) fun same => same
  refine ⟨still held, fun e rejection => ?_, fun reply canonical finished verdict => ?_⟩
  · refine (still held).safe (confined_submitFailed ..) fun request asks => ?_
    obtain ⟨_, rejected, asks⟩ := asks
    rw [rejection] at rejected
    have free : held = false := by
      cases outcome with
      | elapsed millis => cases rejected
      | finished result =>
          cases result with
          | ok reply => cases rejected
          | error e => exact replies.2 rejected
    cases asks with
    | own => exact .removeIf _ _ free
    | load => exact .load _
    | remove => exact .remove _ free
  · subst finished
    obtain ⟨_, same, rfl⟩ : x.2 = false ∧ reply = F.reply ∧ held = true := replies
    refine ⟨still true, fun finalCheckpoints passes => ?_⟩
    have upgraded : F.Writes bytes
        (upgradedRecord B (F.firstRecord bytes) canonical finalCheckpoints) :=
      .upgraded same verdict passes.merged
    refine (still true).safe (confined_upgradeAndFinalize ..) fun request asks => ?_
    cases asks with
    | save => exact .save upgraded fun _ => rfl
    | finalize asks =>
        exact tends_finalize asks (Written.finalize upgraded rfl rfl) rfl

/-- **Every call keeps the record in order.** -/
theorem Kept.safe_call (trips : B.PsbtRoundTrips) (kept : F.Kept x) {call : Call}
    (calls : F.Calls call) : Safe F.observer F.keeping (call.program B store) x := by
  have own : call.id = F.id := by rcases calls with rfl | rfl <;> rfl
  refine Client.safe_call ((kept.permits (.load _)).mono fun answer x' after => ?_)
  obtain ⟨reply, kept', same⟩ := after
  obtain ⟨s', held⟩ := x'
  obtain rfl : held = x.2 := same
  constructor
  · rintro pending rfl _
    obtain ⟨loaded, rfl⟩ : (call.id = F.id → some pending = x.1) ∧ s' = x.1 := reply
    have stored : x.1 = some pending := (loaded own).symm
    obtain ⟨bytes, written⟩ := kept.written pending stored
    refine safe_resumeRecorded ?_ ?_
    · intro evidence canonical stage _
      have here : x.2 = true := kept.held pending stored (by rw [stage]; nofun)
      refine ⟨kept', fun arkTxid finalCheckpoints _ => ?_⟩
      exact kept'.safe (confined_finalizeAndRecord ..) fun request asks =>
        tends_finalize asks (Written.finalize written rfl stage) here
    · intro arkTx unsignedCheckpoints partyCps resubmittable
      obtain rfl := Written.eq_first written resubmittable.stage
      obtain ⟨rfl, rfl, rfl⟩ := resubmittable.eq_of_freshRecord trips F.wellFormed
      exact kept'.safe_submit stored false
  · rintro id arkTx unsignedCheckpoints partyCps same rfl _
    obtain rfl | rfl := calls
    · cases same
      obtain ⟨loaded, rfl⟩ : (_ → none = x.1) ∧ s' = x.1 := reply
      refine (kept'.permits .newToken).mono fun bytes x₂ after => ?_
      obtain ⟨_, kept₂, _⟩ := after
      have first : F.Writes bytes (F.firstRecord bytes) := .fresh
      refine (kept₂.permits (.save first (absurd rfl))).mono fun saved x₃ after => ?_
      obtain ⟨reply, kept₃, _⟩ := after
      rintro rfl
      exact kept₃.safe_submit (reply.trans (Shelf.effect_save rfl _)) true
    · cases same

/-! ## Calls that are not disturbed -/

variable (store F) in
/-- A resumption whose submit is refused fails. -/
theorem exists_resume_refused (trips : B.PsbtRoundTrips) (txids : B.TxidRoundTrips)
    (bytes : Vector UInt8 16) (e : Error) : ∃ e',
      Returns (resumeRecorded B store (F.firstRecord bytes)).run
        [.sent (.submit F.arkTx F.unsignedCheckpoints),
          .answered (.submit F.arkTx F.unsignedCheckpoints) (.finished (.error e))] (.error e') :=
  ⟨_, ends_resumeRecorded_submitting (resubmittable_freshRecord trips txids F.wellFormed _)
    (.exchange (I := interface) _ _ (.stop _))⟩

/-- There is one reply, so there is one record for each stage. -/
theorem lastRecord_eq {canonical : Psbt} {finalCheckpoints : List Psbt}
    (verdict : Spend.verifyServerArkTxSig B F.arkTx F.reply.signedArkTx = .ok canonical)
    (merged : Merges B F.unsignedCheckpoints F.partyCps F.reply finalCheckpoints) :
    F.lastRecord bytes =
      finalizedRecord (upgradedRecord B (F.firstRecord bytes) canonical finalCheckpoints) := by
  obtain ⟨restored, found, list⟩ := F.merged
  obtain ⟨restored', found', list'⟩ := merged
  cases found.symm.trans found'
  rw [lastRecord, Except.ok.inj (F.verified.symm.trans verdict),
    Except.ok.inj (list.symm.trans list')]

/-- How a call that is not disturbed ends. -/
inductive Concludes (F : FairSpend B) (x : Custody) :
    Except Error (Option Txid) → Shelf → Prop where
  | stranded (e : Error) : Stranded x → Concludes F x (.error e) x.1
  | finished (bytes : Vector UInt8 16) : ¬Stranded x →
      Concludes F x (.ok (some F.txid)) (some (F.lastRecord bytes))

/-- A call that finds a record of the spend. -/
theorem exists_concludes_of_record (trips : B.PsbtRoundTrips) (txids : B.TxidRoundTrips)
    {call : Call} (calls : F.Calls call) {record : PendingSpend} {held : Bool}
    (kept : F.Kept (some record, held)) (duplicate : Error) (bytes : Vector UInt8 16) :
    ∃ events r s, F.undisturbed store duplicate bytes call (some record, held) =
      ⟨events, some r, s⟩ ∧ F.Concludes (some record, held) r s := by
  obtain ⟨b, written⟩ := kept.written record rfl
  have bound : record.arkTxid = B.txidToString F.txid := (Written.same written).2.1
  have own : call.id = F.id := by rcases calls with rfl | rfl <;> rfl
  have proceeds : Proceeds B call record := by
    rcases calls with rfl | rfl
    · exact bound.symm
    · trivial
  have parsed : B.parseTxid record.arkTxid = .ok F.txid := bound ▸ txids _
  -- the call ends as the resumption does
  suffices resumed : ∃ events r s,
      Returns (resumeRecorded B store record).run events r ∧
      Follows ((F.submission bytes (F.outcome duplicate held)).reliable
        (.finished (.ok ()))).observer (some record) events s ∧
      F.Concludes (some record, held) (r.map some) s by
    obtain ⟨events, r, s, run, follows, concludes⟩ := resumed
    exact ⟨_, _, s, (ends_call_found proceeds run).runIn_eq (Submission.follows_load own follows),
      concludes⟩
  cases written with
  | fresh =>
      cases held with
      | true =>
          obtain ⟨e, run⟩ := exists_resume_refused store F trips txids b duplicate
          exact ⟨_, _, _, run, .sent _ (.answered _ rfl (.nil _)), .stranded e ⟨rfl, _, rfl, rfl⟩⟩
      | false =>
          let S : Submission := F.submission bytes (F.outcome duplicate false)
          have passes : Passes B (F.firstRecord b) F.arkTx F.unsignedCheckpoints F.partyCps
            F.reply F.canonical F.finalCheckpoints := passes_freshRecord F.verified F.merged
          have own :
              (upgradedRecord B (F.firstRecord b) F.canonical F.finalCheckpoints).id = S.id := rfl
          have answer : S.outcome = .finished (.ok F.reply) := rfl
          have follows := follows_append.mpr
            ⟨_, Submission.follows_submit (.finished (.ok ())) answer F.canonical _,
              Submission.follows_finish store own F.txid F.finalCheckpoints
                (some (F.firstRecord b))⟩
          have again : Resubmittable B (F.firstRecord b) F.arkTx F.unsignedCheckpoints F.partyCps :=
            resubmittable_freshRecord trips txids F.wellFormed _
          exact ⟨_, _, _, ends_resumeRecorded_submitting again
            (returns_submitAndFinalize passes), follows, .finished b (by rintro ⟨⟨⟩, _⟩)⟩
  | @upgraded _ canonical finalCheckpoints same verdict merged =>
      obtain rfl := same
      have passes : Passes B (F.firstRecord b) F.arkTx F.unsignedCheckpoints F.partyCps F.reply
        canonical finalCheckpoints := passes_freshRecord verdict merged
      have resumable : Resumable B store _ :=
        (resumable_upgradedRecord_iff trips txids F.wellFormed.1 F.replied passes).mpr F.spent
      obtain ⟨arkTxid, evidence, canonical', finalCheckpoints', finalizable⟩ :=
        (resumable_iff rfl).mp resumable
      cases finalizable.parsed.symm.trans parsed
      have mine (record : PendingSpend) : record.matchesToken record.token = true := by
        simp [PendingSpend.matchesToken]
      refine ⟨_, _, _, ends_resumeRecorded_submitted finalizable
        (returns_finalizeAndRecord (mine _)), .noted _ (Submission.follows_finalizing rfl _ _), ?_⟩
      rw [← lastRecord_eq verdict merged]
      refine .finished b ?_
      rintro ⟨_, _, ⟨⟩, ⟨⟩⟩
  | @finalized _ canonical finalCheckpoints same verdict merged =>
      obtain rfl := same
      refine ⟨_, _, _, ends_resumeRecorded_finalized parsed rfl, .nil _, ?_⟩
      rw [← lastRecord_eq verdict merged]
      refine .finished b ?_
      rintro ⟨_, _, ⟨⟩, ⟨⟩⟩

/-- **A retry finishes the spend, or the spend is stranded.** After any calls for the spend, of
which each may have broken off anywhere, with a store and a server that may fail: a call that is
not disturbed returns the txid and leaves the record of the finished spend, unless the server
holds the transaction and the record does not have its reply. Then the call fails and changes
nothing. -/
theorem retry_finishes_or_stranded (trips : B.PsbtRoundTrips) (txids : B.TxidRoundTrips)
    (F : FairSpend B) {h : History} {t : Thread interface (Except Error (Option Txid))}
    {x x' : Custody}
    (run : Sequence F.observer (Call.program B store) F.Calls (fun x => x) (none, false) h t x)
    (broken : Ends F.observer t x x') {call : Call} (calls : F.Calls call)
    (found : call = .resume F.id → x'.1 ≠ none) (duplicate : Error) (bytes : Vector UInt8 16) :
    ∃ events r s, F.undisturbed store duplicate bytes call x' = ⟨events, some r, s⟩ ∧
      F.Concludes x' r s := by
  obtain ⟨thread, _⟩ := run.upholds (D := F.keeping)
    (fun call x calls kept => ⟨kept, Kept.safe_call trips kept calls⟩) Kept.empty
  have kept : F.Kept x' := broken.keep thread
  obtain ⟨s, held⟩ := x'
  cases s with
  | some record => exact exists_concludes_of_record trips txids calls kept duplicate bytes
  | none =>
      obtain rfl : held = false := kept.free rfl
      obtain rfl | rfl := calls
      · have accepted : (F.submission bytes (F.outcome duplicate false)).Accepted B F.canonical
          F.finalCheckpoints := ⟨F.reply, rfl, F.verified, F.merged⟩
        obtain ⟨events, returns, follows⟩ := Submission.exists_returns store F.valid accepted
        exact ⟨events, _, _, returns.runIn_eq follows, .finished bytes (by rintro ⟨⟨⟩, _⟩)⟩
      · exact absurd rfl (found rfl)

/-! ## What becomes of a stranded spend -/

/-- Only the submit is repeated, and nothing changes. -/
def repeating (F : FairSpend B) (x : Custody) : Discipline interface Custody where
  allow _ request := request = .load F.id ∨ request = .submit F.arkTx F.unsignedCheckpoints
  keep x' := x' = x

theorem permits_repeating {held : Shelf} {request : Ask}
    (asked : request = .load F.id ∨ request = .submit F.arkTx F.unsignedCheckpoints) :
    Permits F.observer (F.repeating (held, true)) request (fun answer x' =>
      x' = (held, true) ∧ Shelf.Answered F.id held request answer held ∧
        F.Replies true request answer true) (held, true) := by
  have silent : held.effect F.id request = held := by rcases asked with rfl | rfl <;> rfl
  refine ⟨asked, rfl, ?_, ?_⟩
  · rintro ⟨s', held'⟩ ⟨lost, loses⟩
    obtain rfl : s' = held := lost.elim (fun same => same) fun same => same.trans silent
    obtain rfl : held' = true := by
      rcases asked with rfl | rfl
      · exact loses
      · exact loses rfl
    rfl
  · rintro answer ⟨s', held'⟩ ⟨reply, replies⟩
    obtain rfl : s' = held := reply.cases.elim (fun same => same)
      fun same => same.trans silent
    obtain rfl : held' = true := by
      rcases asked with rfl | rfl
      · exact replies
      · cases answer with
        | elapsed millis => exact (replies.1 rfl).2
        | finished result =>
            cases result with
            | ok reply => cases replies.1
            | error e => exact (replies.1 rfl).2
    exact ⟨rfl, rfl, reply, replies⟩

/-- A call that finds a stranded spend submits it again, and does not return. -/
theorem upholds_repeating (trips : B.PsbtRoundTrips) {call : Call} (own : call.id = F.id)
    (bytes : Vector UInt8 16) :
    (call.program B store).Upholds F.observer (F.repeating (some (F.firstRecord bytes), true))
      (fun r _ => ∀ result, r = .ok result → False) (some (F.firstRecord bytes), true) := by
  refine upholds_call ((permits_repeating (.inl (by rw [own]))).mono fun found x after => ?_)
  obtain ⟨rfl, reply, _⟩ := after
  have loaded (pending : Option PendingSpend) (same : found = .ok pending) :
      pending = some (F.firstRecord bytes) := by
    subst same
    exact reply.1 own
  refine ⟨fun _ _ nothing => ?_, fun pending here _ => ?_, fun _ _ _ _ _ nothing => ?_⟩
  · cases loaded none nothing
  · cases loaded (some pending) here
    refine achieves_resumeRecorded (fun _ stage _ => by cases stage)
      (fun _ _ stage _ => by cases stage) fun arkTx unsignedCheckpoints partyCps again => ?_
    obtain ⟨rfl, rfl, rfl⟩ := again.eq_of_freshRecord trips F.wellFormed
    refine achieves_submitAndFinalize
      ((permits_repeating (.inr rfl)).mono fun outcome x after => ?_)
    obtain ⟨rfl, _, replies⟩ := after
    refine ⟨fun e _ => ?_, fun reply _ finished _ => ?_⟩
    · exact (confined_submitFailed ..).upholds (J := fun x => x = _)
        (fun _ _ asks _ => by cases asks.1) (fun _ _ _ => trivial) rfl
    · subst finished
      cases replies.1
  · cases loaded none nothing

/-- **A stranded spend stays stranded.** Once it is, no call on the id returns, whatever its
arguments: the only message is the same submit, the server goes on holding the transaction, and the
record is kept. -/
theorem stranded_for_good (trips : B.PsbtRoundTrips) (F : FairSpend B) {h h' : History}
    {t t' : Thread interface (Except Error (Option Txid))} {x x' x'' : Custody}
    (run : Sequence F.observer (Call.program B store) F.Calls (fun x => x) (none, false) h t x)
    (broken : Ends F.observer t x x') (stranded : Stranded x')
    (later : Sequence F.observer (Call.program B store) (fun call => call.id = F.id) (fun x => x)
      x' h' t' x'') :
    x'' = x' ∧ (∀ result, t' ≠ .running (.done (.ok result))) ∧
      ∀ request, .sent request ∈ h' →
        request = .load F.id ∨ request = .submit F.arkTx F.unsignedCheckpoints := by
  obtain ⟨thread, _⟩ := run.upholds (D := F.keeping)
    (fun call x calls kept => ⟨kept, Kept.safe_call trips kept calls⟩) Kept.empty
  have kept : F.Kept x' := broken.keep thread
  obtain ⟨s, held⟩ := x'
  obtain ⟨rfl, record, rfl, stage⟩ := stranded
  obtain ⟨bytes, written⟩ := kept.written record rfl
  obtain rfl := Written.eq_first written stage
  have maintains (call : Call) (x : Custody) (own : call.id = F.id)
      (same : (F.repeating (some (F.firstRecord bytes), true)).keep x) :
      (F.repeating (some (F.firstRecord bytes), true)).keep x ∧
        (call.program B store).Upholds F.observer (F.repeating (some (F.firstRecord bytes), true))
          (fun r _ => ∀ result, r = .ok result → False) x := by
    obtain rfl : x = _ := same
    exact ⟨rfl, upholds_repeating trips own bytes⟩
  obtain ⟨thread', sends⟩ := later.upholds maintains rfl
  refine ⟨thread'.keep, ?_, fun request sent => (sends request sent).choose_spec⟩
  rintro result rfl
  exact thread'.2 result rfl

/-! ## A submit that times out -/

variable (store) in
/-- The first submit of a spend times out, and the server holds the transaction or does not. -/
theorem exists_timedOut (F : FairSpend B) (bytes : Vector UInt8 16) (held : Bool) :
    ∃ h t, Sequence F.observer (Call.program B store) F.Calls (fun x => x) (none, false) h t
      (some (F.firstRecord bytes), held) := by
  have timedOut : Emits (submitAndFinalize B store (F.firstRecord bytes) F.arkTx
      F.unsignedCheckpoints F.partyCps true).run
      [.sent (.submit F.arkTx F.unsignedCheckpoints),
        .answered (.submit F.arkTx F.unsignedCheckpoints) (.elapsed 30000)] :=
    ⟨_, .exchange (I := interface) _ _ (.stop _)⟩
  obtain ⟨t, run⟩ := emits_call_fresh bytes F.valid timedOut
  have loaded : F.observer.answered (none, false) (.load F.id) (.ok none) (none, false) :=
    ⟨⟨fun _ => rfl, rfl⟩, rfl⟩
  have drawn : F.observer.answered (none, false) .newToken bytes (none, false) := ⟨.inl rfl, rfl⟩
  have saved : F.observer.answered (none, false) (.save (F.firstRecord bytes)) (.ok ())
      (some (F.firstRecord bytes), false) := ⟨(Shelf.effect_save rfl none).symm, rfl⟩
  have answered : F.observer.answered (some (F.firstRecord bytes), false)
      (.submit F.arkTx F.unsignedCheckpoints) (.elapsed 30000)
      (some (F.firstRecord bytes), held) := ⟨.inl rfl, nofun, nofun⟩
  exact ⟨_, t, .first (.inl rfl) run (.sent _ <| .answered _ loaded <| .sent _ <|
    .answered _ drawn <| .sent _ <| .answered _ saved <| .sent _ <| .answered _ answered <|
      .nil _)⟩

theorem exists_fairSpend : ∃ F : FairSpend .reference, F.call = Client.Sample.call := by
  let cp := ArkadeEscrow.Sample.checkpoint 1 ∅
  have valid : validateCheckpoints [cp] [[cp]] = .ok () :=
    validateCheckpoints_self (List.cons_ne_nil _ _)
  obtain ⟨finalCheckpoints, merged⟩ := exists_merges_self (B := .reference) [cp]
    (by simp [cp, ArkadeEscrow.Sample.checkpoint]) (ArkadeEscrow.Sample.cosigned [cp])
  have single : ∀ other ∈ [cp], other.WellFormed := by
    simp [cp]
  exact ⟨⟨"trade", ArkadeEscrow.Sample.arkTx [cp], [cp], [[cp]],
    ⟨ArkadeEscrow.Sample.cosigned [cp], [cp]⟩, _, finalCheckpoints,
    Client.Sample.wellFormed_call, single, valid, ArkadeEscrow.Sample.verified_cosigned cp [],
    merged, by
      simp [checkpointsSpentBy, cp, ArkadeEscrow.Sample.arkTx, ArkadeEscrow.Sample.txIn]⟩, rfl⟩

/-- A retry after a timeout finishes the spend if the server does not hold the transaction, and
fails if it does. -/
theorem retry_finishes_or_stranded_sample : ∃ F : FairSpend .reference,
    ∀ (bytes : Vector UInt8 16) (held : Bool), ∃ events r s,
      F.undisturbed ⟨true, true⟩ (.msg "duplicated offchain tx") bytes (.resume F.id)
        (some (F.firstRecord bytes), held) = ⟨events, some r, s⟩ ∧
      (r = .ok (some F.txid) ↔ held = false) := by
  obtain ⟨F, _⟩ := exists_fairSpend
  refine ⟨F, fun bytes held => ?_⟩
  obtain ⟨h, t, run⟩ := exists_timedOut ⟨true, true⟩ F bytes held
  obtain ⟨events, r, s, same, concludes⟩ := retry_finishes_or_stranded
    BitcoinLib.psbtRoundTrips_reference BitcoinLib.txidRoundTrips_reference F run (.stop _ _)
    (.inr rfl) (fun _ => nofun) (.msg "duplicated offchain tx") bytes
  refine ⟨events, r, s, same, ?_⟩
  cases concludes with
  | stranded e stranded => simp [show held = true from stranded.1]
  | finished bytes' free =>
      cases held with
      | true => exact absurd ⟨rfl, _, rfl, rfl⟩ free
      | false => simp

/-- Once the server holds the transaction of a call that timed out, a resumption fails. -/
theorem stranded_for_good_sample : ∃ (F : FairSpend .reference) (bytes : Vector UInt8 16)
    (h' : History) (e : Error) (x'' : Custody),
    Sequence F.observer (Call.program .reference ⟨true, true⟩) (fun call => call.id = F.id)
      (fun x => x) (some (F.firstRecord bytes), true) h' (.running (.done (.error e))) x'' ∧
    x'' = (some (F.firstRecord bytes), true) := by
  obtain ⟨F, _⟩ := exists_fairSpend
  let bytes : Vector UInt8 16 := .replicate 16 0
  let held : Custody := (some (F.firstRecord bytes), true)
  obtain ⟨h, t, run⟩ := exists_timedOut ⟨true, true⟩ F bytes true
  obtain ⟨e, refused⟩ := exists_resume_refused ⟨true, true⟩ F BitcoinLib.psbtRoundTrips_reference
    BitcoinLib.txidRoundTrips_reference bytes (.msg "duplicated offchain tx")
  have again : Returns ((Call.resume F.id).program .reference ⟨true, true⟩) _ _ :=
    ends_call_found trivial refused
  have loaded : F.observer.answered held (.load F.id) (.ok held.1) held :=
    ⟨⟨fun _ => rfl, rfl⟩, rfl⟩
  have answered : F.observer.answered held (.submit F.arkTx F.unsignedCheckpoints)
      (.finished (.error (.msg "duplicated offchain tx"))) held :=
    ⟨.inl rfl, fun _ => ⟨rfl, rfl⟩, nofun⟩
  have later : Sequence F.observer (Call.program .reference ⟨true, true⟩)
      (fun call => call.id = F.id) (fun x => x) held _ _ _ :=
    .first rfl again (.sent _ <| .answered _ loaded <| .sent _ <| .answered _ answered <| .nil _)
  obtain ⟨same, _⟩ := stranded_for_good BitcoinLib.psbtRoundTrips_reference F run (.stop _ _)
    ⟨rfl, _, rfl, rfl⟩ later
  exact ⟨F, bytes, _, _, _, later, same⟩

end FairSpend

end Client
end ArkadeEscrow
