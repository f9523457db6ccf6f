import ArkadeEscrow.Client.Traces
import ArkadeEscrow.Interaction.Slots

/-!
# The client as a service

A process serves any number of ids. Calls for one id do not overlap, any call may crash at
any point, and a store operation that fails may or may not have taken effect. For each id a
desk holds the record in the store and a ledger of the attempts: which fresh call began the
attempt, the record that it wrote first, what has been submitted under it, the replies, and
whether the fresh call was definitively rejected. A record in the store carries the number
of the attempt it belongs to; the client never sees this number, it only says which attempt
a resumed record stems from.

`service` is the client over its desks, and `exists_submitted` a run of it.
-/

set_option autoImplicit false

namespace ArkadeEscrow
namespace Client

open Interaction

/-! ## Desks -/

/-- What has become of one attempt. -/
structure AttemptLog where
  /-- The fresh call that began it. -/
  call : Call
  /-- The record that was written first. -/
  first : Option PendingSpend
  /-- The ark txids that have been submitted. -/
  sent : List Txid
  /-- The fresh call has received a definitive rejection. -/
  rejected : Bool
  /-- The server's replies. -/
  replies : List SubmitReply

namespace AttemptLog

/-- A record is written. -/
def written (log : AttemptLog) (spend : PendingSpend) : AttemptLog :=
  { log with first := log.first.or (some spend) }

/-- A submit leaves the process. -/
def submitted (log : AttemptLog) (arkTxid : Txid) : AttemptLog :=
  { log with sent := arkTxid :: log.sent }

/-- The server answers a submit, of the fresh call or of a resumption. -/
def replied (log : AttemptLog) (fresh : Bool) (outcome : Outcome SubmitReply) : AttemptLog :=
  { log with
    rejected := log.rejected || (fresh && rejects outcome)
    replies := match outcome with
      | .finished (.ok reply) => reply :: log.replies
      | _ => log.replies }

end AttemptLog

/-- The record of an id in the store, its attempts, and the call in progress. -/
structure Desk where
  /-- The record, and the attempt that first wrote it. -/
  stored : Option (PendingSpend × Option Nat)
  attempts : List AttemptLog
  call : Option Call
  /-- The attempt that the call belongs to. -/
  attempt : Option Nat
  /-- The call has begun this attempt. -/
  fresh : Bool

namespace Desk

/-- Nothing has happened. -/
def empty : Desk := ⟨none, [], none, none, false⟩

/-- A call begins. -/
def begin (d : Desk) (c : Call) : Desk := { d with call := some c, attempt := none, fresh := false }

/-- The call begins an attempt. -/
def beginAttempt (d : Desk) : Desk :=
  match d.call with
  | some c =>
      { d with
        attempts := d.attempts ++ [⟨c, none, [], false, []⟩]
        attempt := some d.attempts.length
        fresh := true }
  | none => d

/-- The first load of a call decides which attempt it belongs to. -/
def loaded (d : Desk) : Desk :=
  if d.attempt.isSome then d
  else match d.stored with
    | some (_, author) => { d with attempt := author }
    | none => d.beginAttempt

/-- Write into the log of the call's attempt. -/
def onAttempt (d : Desk) (f : AttemptLog → AttemptLog) : Desk :=
  match d.attempt with
  | some a => { d with attempts := d.attempts.modify a f }
  | none => d

@[simp] theorem onAttempt_stored (d : Desk) (f : AttemptLog → AttemptLog) :
    (d.onAttempt f).stored = d.stored := by
  rw [onAttempt]
  split <;> rfl

@[simp] theorem onAttempt_fresh (d : Desk) (f : AttemptLog → AttemptLog) :
    (d.onAttempt f).fresh = d.fresh := by
  rw [onAttempt]
  split <;> rfl

/-- The record in the store is the attempt's with this token. -/
def matchesToken (d : Desk) (token : String) : Bool :=
  d.stored.any fun (existing, _) => existing.matchesToken token

/-- A store operation takes effect. -/
def effect (d : Desk) : Ask → Desk
  | .save spend => { d with stored := some (spend, d.attempt) }
  | .saveIf spend =>
      if d.matchesToken spend.token then { d with stored := some (spend, d.attempt) } else d
  | .remove _ => { d with stored := none }
  | .removeIf _ token => if d.matchesToken token then { d with stored := none } else d
  | _ => d

/-- A request leaves the process. -/
def sent (B : BitcoinLib) (d : Desk) : Ask → Desk
  | .save spend => d.onAttempt fun log => log.written spend
  | .submit arkTx _ => d.onAttempt fun log => log.submitted (B.computeTxid arkTx.unsignedTx)
  | _ => d

/-- The server answers a submit. -/
def replied (d : Desk) (outcome : Outcome SubmitReply) : Desk :=
  d.onAttempt fun log => log.replied d.fresh outcome

/-- Which answers a store gives, and what they leave. A failed operation may have taken
effect. -/
def Answered (d : Desk) : (request : Ask) → request.Answer → Desk → Prop
  | .load _, .ok found, d' => found = d.stored.map Prod.fst ∧ d' = d.loaded
  | .load _, .error _, d' => d' = d
  | .save spend, .ok _, d' => d' = d.effect (.save spend)
  | .remove id, .ok _, d' => d' = d.effect (.remove id)
  | .saveIf spend, .ok written, d' =>
      written = d.matchesToken spend.token ∧ d' = d.effect (.saveIf spend)
  | .removeIf id token, .ok cleared, d' =>
      cleared = d.matchesToken token ∧ d' = d.effect (.removeIf id token)
  | .submit _ _, outcome, d' => d' = d.replied outcome
  | request, _, d' => d' = d ∨ d' = d.effect request

end Desk

/-- The id whose desk a request of a call for `id` is about. -/
def Ask.key (id : String) : Ask → String
  | .load id' | .remove id' | .removeIf id' _ => id'
  | .save spend | .saveIf spend => spend.id
  | .newToken | .submit _ _ | .finalize _ _ => id

/-- The observer of a desk. -/
def ledger (B : BitcoinLib) : Observer interface Desk where
  noted d _ := d
  sent := Desk.sent B
  answered := Desk.Answered
  lost d request d' := d' = d ∨ d' = d.effect request

/-- The client as a service: any number of ids, one call at a time for each, and calls that are
given well-formed PSBTs. -/
def service (B : BitcoinLib) (store : SpendStore) :
    Service interface String {call : Call // call.WellFormed} Desk
      (Except Error (Option Txid)) where
  program call := call.val.program B store
  key call := call.val.id
  target := Ask.key
  observer := ledger B
  begun d call := d.begin call.val

/-- The store is empty and no call has been made. -/
def idle : World interface String Desk (Except Error (Option Txid)) where
  cell _ := .empty
  thread _ := none

/-! ## A submit that is waiting for its answer -/

/-- The desk of a fresh call that has submitted. -/
def submittedDesk (B : BitcoinLib) (id : String) (arkTx : Psbt) (unsignedCheckpoints : List Psbt)
    (partyCps : List (List Psbt)) (bytes : Vector UInt8 16) : Desk :=
  let call : Call := .spend id arkTx unsignedCheckpoints partyCps
  let record := freshRecord B id arkTx unsignedCheckpoints partyCps (PendingSpend.newToken bytes)
  { stored := some (record, some 0)
    attempts := [⟨call, some record, [B.computeTxid arkTx.unsignedTx], false, []⟩]
    call := some call
    attempt := some 0
    fresh := true }

/-- A fresh call that passes its validation can get as far as its submit. -/
theorem exists_submitted {B : BitcoinLib} (store : SpendStore) (id : String) (arkTx : Psbt)
    {unsignedCheckpoints : List Psbt} {partyCps : List (List Psbt)} (bytes : Vector UInt8 16)
    (wellFormed : Call.WellFormed (.spend id arkTx unsignedCheckpoints partyCps))
    (valid : validateCheckpoints unsignedCheckpoints partyCps = .ok ()) :
    ∃ w, (service B store).Reachable idle w ∧
      w.cell id = submittedDesk B id arkTx unsignedCheckpoints partyCps bytes := by
  let call : Call := .spend id arkTx unsignedCheckpoints partyCps
  let record := freshRecord B id arkTx unsignedCheckpoints partyCps (PendingSpend.newToken bytes)
  let events : List (Event interface) := [.sent (.load id), .answered (.load id) (.ok none),
    .sent .newToken, .answered .newToken bytes, .sent (.save record),
    .answered (.save record) (.ok ()), .sent (.submit arkTx unsignedCheckpoints)]
  obtain ⟨t, run⟩ : Emits (call.program B store) events := emits_call_fresh bytes valid emits_submit
  have own : ∀ request, .sent request ∈ events → request.key call.id = call.id := by
    simp [events, Ask.key, call, Call.id, record, freshRecord]
  have follows : Service.Follows (ledger B) (Desk.empty.begin call) events
      (submittedDesk B id arkTx unsignedCheckpoints partyCps bytes) :=
    .sent _ <| .answered _ ⟨rfl, rfl⟩ <| .sent _ <| .answered _ (.inl rfl) <| .sent _ <|
      .answered _ rfl <| .sent _ <| .nil _
  obtain ⟨w, reach, -, cell⟩ :=
    Service.reachable_of_call (S := service B store) (w := idle) (c := ⟨call, wellFormed⟩) rfl run
      own follows
  exact ⟨w, reach, cell⟩

end Client
end ArkadeEscrow
