import ArkadeEscrow.Client.Outstanding
import ArkadeEscrow.Client.Stages

/-!
# Acknowledged finalizes

A record is marked finalized so that its spend counts as done: it is not resumed any more, and the
application may clear it. `acknowledged` reads off the events which finalizes the server has
acknowledged, and `Vouched.safe_call` says that every call marks a record only under the txid of
one of them, whatever the store and the server answer, and wherever the call breaks off.
-/

set_option autoImplicit false

namespace ArkadeEscrow
namespace Client

open Interaction Program

/-- The finalizes that the server has acknowledged after an event. -/
def acknowledgedNext (acked : List Txid) : Event interface → List Txid
  | .answered (.finalize arkTxid _) (.finished (.ok ())) => arkTxid :: acked
  | _ => acked

theorem acknowledgedNext_noted (acked : List Txid) (remark : Note) :
    acknowledgedNext acked (.noted remark) = acked := rfl

/-- The finalizes that the server has acknowledged in these events. -/
def acknowledged (events : List (Event interface)) : List Txid :=
  events.foldl acknowledgedNext []

theorem subset_acknowledgedNext (acked : List Txid) (event : Event interface) :
    acked ⊆ acknowledgedNext acked event := by
  fun_cases acknowledgedNext acked event with
  | case1 => exact List.subset_cons_self ..
  | case2 => exact List.Subset.refl _

/-- The server has acknowledged the transaction of the record. -/
def Acknowledged (B : BitcoinLib) (acked : List Txid) (record : PendingSpend) : Prop :=
  ∃ txid ∈ acked, B.parseTxid record.arkTxid = .ok txid

/-- The record of an id, and the finalizes that were acknowledged. -/
abbrev Tally := Shelf × List Txid

/-- What is marked finalized has been acknowledged. -/
structure Vouched (B : BitcoinLib) (id : String) (x : Tally) : Prop where
  named : ∀ record, x.1 = some record → record.id = id
  vouched : ∀ record, x.1 = some record → record.stage = .finalized → Acknowledged B x.2 record

/-- Requests stay on the id, and what is marked finalized has been acknowledged. -/
def vouching (B : BitcoinLib) (id : String) : Discipline interface Tally where
  allow _ request := request.key id = id
  keep := Vouched B id

/-- The shelf of an id, and what was acknowledged. -/
abbrev teller (id : String) : Observer interface Tally :=
  (shelf id).watched (Watch.ofEvents Shelf acknowledgedNext)

variable {B : BitcoinLib} {store : SpendStore} {id : String} {x : Tally}

/-- The record that a request writes. -/
def Ask.record? : Ask → Option PendingSpend
  | .save spend | .saveIf spend => some spend
  | _ => none

/-- A request that may be sent: a record that it marks finalized has been acknowledged. -/
structure Vouches (B : BitcoinLib) (id : String) (acked : List Txid) (request : Ask) : Prop where
  own : request.key id = id
  marks : ∀ spend, request.record? = some spend → spend.stage = .finalized →
    Acknowledged B acked spend

/-- A record that is on the shelf was there, or has been written. -/
theorem effect_eq_some {s : Shelf} {request : Ask} {record : PendingSpend}
    (stored : s.effect id request = some record) :
    s = some record ∨ request.record? = some record := by
  cases request with
  | save spend =>
      rw [Shelf.effect] at stored
      split at stored
      · exact .inr stored
      · exact .inl stored
  | saveIf spend =>
      rw [Shelf.effect] at stored
      split at stored
      · exact .inr stored
      · exact .inl stored
  | remove id' =>
      rw [Shelf.effect] at stored
      split at stored
      · cases stored
      · exact .inl stored
  | removeIf id' token =>
      rw [Shelf.effect] at stored
      split at stored
      · cases stored
      · exact .inl stored
  | _ => exact .inl stored

theorem Vouched.mono (vouched : Vouched B id x) {acked : List Txid} (more : x.2 ⊆ acked) :
    Vouched B id (x.1, acked) := by
  refine ⟨vouched.named, fun record stored stage => ?_⟩
  obtain ⟨txid, member, parsed⟩ := vouched.vouched record stored stage
  exact ⟨txid, more member, parsed⟩

theorem Vouched.effect (vouched : Vouched B id x) {request : Ask}
    (vouches : Vouches B id x.2 request) : Vouched B id (x.1.effect id request, x.2) where
  named := effect_named vouched.named request
  vouched record stored stage := by
    rcases effect_eq_some stored with here | written
    · exact vouched.vouched record here stage
    · exact vouches.marks record written stage

/-- **Such requests keep what is marked acknowledged**, whatever becomes of them. -/
theorem Vouched.permits (vouched : Vouched B id x) {request : Ask}
    (vouches : Vouches B id x.2 request) :
    Permits (teller id) (vouching B id) request (fun answer x' =>
      x.1.Answered id request answer x'.1 ∧ Vouched B id x' ∧
        x'.2 = acknowledgedNext x.2 (.answered request answer)) x := by
  have either {s' : Shelf} (left : s' = x.1 ∨ s' = x.1.effect id request) :
      Vouched B id (s', x.2) := by
    rcases left with rfl | rfl
    · exact vouched
    · exact vouched.effect vouches
  refine ⟨vouches.own, vouched, ?_, ?_⟩
  · rintro ⟨s', acked⟩ ⟨lost, same⟩
    obtain rfl : acked = x.2 := same
    exact either lost
  · rintro answer ⟨s', acked⟩ ⟨reply, same⟩
    obtain rfl : acked = acknowledgedNext x.2 (.answered request answer) := same
    have kept := (either reply.cases).mono (subset_acknowledgedNext x.2 (.answered request answer))
    exact ⟨kept, reply, kept, rfl⟩

/-- A program that asks such things keeps it too. What has been acknowledged stays so. -/
theorem Vouched.upholds (vouched : Vouched B id x) {α : Type} {p : Program interface α}
    {asks : Ask → Prop} (confined : Confined asks p)
    (vouches : ∀ request, asks request → ∀ acked, x.2 ⊆ acked → Vouches B id acked request) :
    p.Upholds (teller id) (vouching B id) (fun _ => Vouched B id) x := by
  refine confined.upholds (J := fun x' => Vouched B id x' ∧ x.2 ⊆ x'.2) ?_
    (fun _ _ kept => kept.1) ⟨vouched, List.Subset.refl _⟩
  rintro request x' member ⟨vouched', more⟩
  refine (vouched'.permits (vouches request member x'.2 more)).mono ?_
  rintro answer x'' ⟨_, vouched'', acked⟩
  exact ⟨vouched'', fun _ here => acked ▸ subset_acknowledgedNext _ _ (more here)⟩

/-! ## The parts of a call -/

theorem vouches_of_silent {request : Ask} {acked : List Txid} (own : request.key id = id)
    (silent : request.record? = none) : Vouches B id acked request :=
  ⟨own, fun _ writes => by cases silent.symm.trans writes⟩

theorem vouches_of_write {request : Ask} {spend : PendingSpend} {acked : List Txid}
    (own : request.key id = id) (writes : request.record? = some spend)
    (acknowledged : spend.stage = .finalized → Acknowledged B acked spend) :
    Vouches B id acked request := by
  refine ⟨own, fun spend' writes' => ?_⟩
  cases writes.symm.trans writes'
  exact acknowledged

theorem vouches_saveIf {request : Ask} {spend : PendingSpend} {acked : List Txid}
    (asks : SaveIfAsks spend request) (own : spend.id = id)
    (acknowledged : Acknowledged B acked spend) : Vouches B id acked request := by
  cases asks with
  | own => exact vouches_of_write own rfl fun _ => acknowledged
  | load => exact vouches_of_silent own rfl
  | save => exact vouches_of_write own rfl fun _ => acknowledged

variable (store) in
/-- **Marking follows the acknowledgement.** -/
theorem Vouched.finalizing (vouched : Vouched B id x) {pending : PendingSpend}
    (own : pending.id = id) {arkTxid : Txid} (parsed : B.parseTxid pending.arkTxid = .ok arkTxid)
    (finalCheckpoints : List Psbt) :
    (finalizeAndRecord store pending arkTxid finalCheckpoints).run.Upholds (teller id)
      (vouching B id) (Settles (fun _ => Vouched B id) (Vouched B id)) x := by
  refine upholds_finalizeAndRecord ((vouched.permits
    (vouches_of_silent rfl rfl)).mono fun outcome x' after => ?_)
  obtain ⟨_, vouched', acked⟩ := after
  refine ⟨fun _ => vouched', ?_⟩
  rintro rfl
  have here : arkTxid ∈ x'.2 := acked ▸ List.mem_cons_self
  refine (vouched'.upholds (confined_saveIf (finalizedRecord pending))
    fun request asks acked' more => ?_).mono fun written x'' kept => ?_
  · exact vouches_saveIf asks own ⟨arkTxid, more here, parsed⟩
  · cases written <;> exact kept

variable (store) in
/-- Upgrading the record, and marking it. -/
theorem Vouched.upgrading (vouched : Vouched B id x) {pending : PendingSpend}
    (own : pending.id = id) (stage : pending.stage = .submitted) {arkTxid : Txid}
    (parsed : B.parseTxid pending.arkTxid = .ok arkTxid) (finalCheckpoints : List Psbt) :
    (upgradeAndFinalize store pending arkTxid finalCheckpoints).run.Upholds (teller id)
      (vouching B id) (Settles (fun _ => Vouched B id) (Vouched B id)) x := by
  have saves (acked : List Txid) : Vouches B id acked (.save pending) :=
    vouches_of_write own rfl fun marked => by cases stage.symm.trans marked
  refine upholds_upgradeAndFinalize ((vouched.permits (saves _)).mono fun saved x' after => ?_)
  have finalizing := after.2.1.finalizing store own parsed finalCheckpoints
  cases saved with
  | ok saved => exact finalizing
  | error e =>
      refine finalizing.mono fun result x'' settled => ?_
      cases result with
      | ok txid => exact settled
      | error e' =>
          have settled : Vouched B id x'' := settled
          exact (settled.permits (saves _)).mono fun _ _ after' => after'.2.1

/-- **Submitting is safe** under a record that is not marked. -/
theorem Vouched.safe_submit (txids : B.TxidRoundTrips) (vouched : Vouched B id x)
    {pending : PendingSpend} (own : pending.id = id) (arkTx : Psbt)
    (unsignedCheckpoints : List Psbt) (partyCps : List (List Psbt)) (firstAttempt : Bool) :
    Safe (teller id) (vouching B id)
      (submitAndFinalize B store pending arkTx unsignedCheckpoints partyCps firstAttempt).run
      x := by
  refine safe_submitAndFinalize ((vouched.permits
    (vouches_of_silent rfl rfl)).mono fun outcome x' after => ?_)
  obtain ⟨_, vouched', _⟩ := after
  refine ⟨fun e _ => ?_, fun reply canonical _ _ => ⟨vouched', fun finalCheckpoints passes => ?_⟩⟩
  · refine (vouched'.upholds (confined_submitFailed ..)
      fun request asks acked _ => ?_).mono fun _ _ _ => trivial
    obtain ⟨_, _, asks⟩ := asks
    cases asks with
    | own => exact vouches_of_silent own rfl
    | load => exact vouches_of_silent own rfl
    | remove => exact vouches_of_silent own rfl
  · have parsed : B.parseTxid (upgradedRecord B pending canonical finalCheckpoints).arkTxid =
        .ok (B.computeTxid arkTx.unsignedTx) := by
      rw [upgradedRecord, ← passes.sameTxid]
      exact txids _
    have upgraded : (upgradedRecord B pending canonical finalCheckpoints).id = id := own
    have upgrading := vouched'.upgrading store upgraded rfl parsed finalCheckpoints
    exact upgrading.mono fun _ _ _ => trivial

/-! ## The calls -/

/-- **Every call marks only what the server has acknowledged.** -/
theorem Vouched.safe_call (txids : B.TxidRoundTrips) {call : Call} (same : call.id = id)
    (vouched : Vouched B id x) :
    Safe (teller id) (vouching B id) (call.program B store) x := by
  subst same
  refine Client.safe_call ((vouched.permits
    (vouches_of_silent rfl rfl)).mono fun answer x' after => ?_)
  obtain ⟨reply, vouched', _⟩ := after
  constructor
  · rintro pending rfl _
    obtain ⟨loaded, _⟩ : (call.id = call.id → some pending = x.1) ∧ x'.1 = x.1 := reply
    have own := vouched.named pending (loaded rfl).symm
    refine safe_resumeRecorded ?_ ?_
    · intro evidence canonical _ _
      refine ⟨vouched', fun arkTxid finalCheckpoints finalizable => ?_⟩
      exact (vouched'.finalizing store own finalizable.parsed finalCheckpoints).mono
        fun _ _ _ => trivial
    · intro arkTx unsignedCheckpoints partyCps _
      exact vouched'.safe_submit txids own arkTx unsignedCheckpoints partyCps false
  · rintro id' arkTx unsignedCheckpoints partyCps rfl _ _
    refine (vouched'.permits (vouches_of_silent rfl rfl)).mono
      fun bytes x₂ after₂ => ?_
    refine (after₂.2.1.permits (vouches_of_write rfl rfl fun marked => by cases marked)).mono
      fun saved x₃ after₃ => ?_
    rintro rfl
    exact after₃.2.1.safe_submit txids rfl arkTx unsignedCheckpoints partyCps true

end Client
end ArkadeEscrow
