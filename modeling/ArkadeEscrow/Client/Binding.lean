import ArkadeEscrow.Client.Attempt
import ArkadeEscrow.Client.Shelf
import ArkadeEscrow.Reference

/-!
# An id is bound to its recorded transaction

A record can hold anything: it may have been altered after it was written. A call that finds
one at stage `submitted` compares the recorded transaction with the recorded txid before its
first message, but at stage `submitting` only after the submit. `bound_to_record_iff` says
for which records every message is for the recorded txid all the same.
-/

set_option autoImplicit false

namespace ArkadeEscrow
namespace Client

open Interaction Program
open Service (Follows)

variable {B : BitcoinLib} {store : SpendStore}

/-- The transaction that a message to the server is about. -/
def Ask.txid? (B : BitcoinLib) : Ask → Option Txid
  | .submit arkTx _ => some (B.computeTxid arkTx.unsignedTx)
  | .finalize arkTxid _ => some arkTxid
  | _ => none

/-- The data of a record matches its txid: what would be submitted again, or finalized, is
there and is that transaction. -/
inductive RecordMatches (B : BitcoinLib) (pending : PendingSpend) : Prop where
  | submitting {arkTx : Psbt} {unsignedCheckpoints : List Psbt} {partyCps : List (List Psbt)} :
      Resubmittable B pending arkTx unsignedCheckpoints partyCps →
      B.parseTxid pending.arkTxid = .ok (B.computeTxid arkTx.unsignedTx) →
      RecordMatches B pending
  | submitted {arkTxid : Txid} {evidence canonical : Psbt} {finalCheckpoints : List Psbt} :
      Finalizable B pending arkTxid evidence canonical finalCheckpoints →
      RecordMatches B pending

/-- From what is stored under its id, the call sends messages only for the transaction of the
record that is there when it sends them, and none when it has found a record whose data does
not match. -/
def BoundToRecord (B : BitcoinLib) (store : SpendStore) (call : Call) (stored : Shelf) : Prop :=
  ∀ before request after s txid,
    Emits (call.program B store) (before ++ .sent request :: after) →
    Follows (shelf call.id) stored before s → request.txid? B = some txid →
    (∀ record, s = some record → B.parseTxid record.arkTxid = .ok txid) ∧
      ∀ record, stored = some record → RecordMatches B record

/-! ## What is asked under one txid -/

/-- A request that writes or is about the transaction with this recorded txid. -/
def Names (B : BitcoinLib) (recorded : String) : Ask → Prop
  | .save spend | .saveIf spend => spend.arkTxid = recorded
  | .submit arkTx _ => B.parseTxid recorded = .ok (B.computeTxid arkTx.unsignedTx)
  | .finalize arkTxid _ => B.parseTxid recorded = .ok arkTxid
  | _ => True

/-- The record on the shelf, if there is one, has this txid. -/
def Shelf.Names (recorded : String) (s : Shelf) : Prop :=
  ∀ record, s = some record → record.arkTxid = recorded

theorem Shelf.Names.effect {id recorded : String} {s : Shelf} (here : s.Names recorded)
    {request : Ask} (names : Client.Names B recorded request) :
    (s.effect id request).Names recorded := by
  cases request with
  | save spend =>
      rw [Shelf.effect]
      split
      · rintro _ ⟨⟩
        exact names
      · exact here
  | saveIf spend =>
      rw [Shelf.effect]
      split
      · rintro _ ⟨⟩
        exact names
      · exact here
  | remove id' =>
      rw [Shelf.effect]
      split
      · rintro _ ⟨⟩
      · exact here
  | removeIf id' token =>
      rw [Shelf.effect]
      split
      · rintro _ ⟨⟩
      · exact here
  | newToken => exact here
  | load id' => exact here
  | submit arkTx checkpointTxs => exact here
  | finalize arkTxid signedCheckpointTxs => exact here

/-- Messages are for the transaction of the record on the shelf, and are not sent when the
record that was found does not match. -/
def binding (B : BitcoinLib) (stored : Shelf) : Discipline interface Shelf where
  allow s request := ∀ txid, request.txid? B = some txid →
    (∀ record, s = some record → B.parseTxid record.arkTxid = .ok txid) ∧
      ∀ record, stored = some record → RecordMatches B record
  keep _ := True

theorem permits_names {id recorded : String} {stored s : Shelf} {request : Ask}
    (found : ∀ record, stored = some record → RecordMatches B record)
    (names : Names B recorded request) (here : s.Names recorded) :
    Permits (shelf id) (binding B stored) request (fun _ s' => s'.Names recorded) s := by
  refine permits_shelf ?_ trivial trivial fun answer s' reply => ?_
  · intro txid about
    refine ⟨fun record present => ?_, found⟩
    obtain rfl := here record present
    cases request with
    | submit arkTx checkpointTxs => exact Option.some.inj about ▸ names
    | finalize arkTxid signedCheckpointTxs => exact Option.some.inj about ▸ names
    | _ => cases about
  · rcases reply.cases with rfl | rfl
    · exact here
    · exact here.effect names

/-- A program that names one txid only. -/
theorem safe_of_names {id recorded : String} {stored s : Shelf} {α : Type}
    {p : Program interface α} (found : ∀ record, stored = some record → RecordMatches B record)
    (confined : Confined (Names B recorded) p) (here : s.Names recorded) :
    Safe (shelf id) (binding B stored) p s :=
  confined.upholds (J := Shelf.Names recorded) (fun _ _ names here =>
    permits_names found names here)
    (fun _ _ _ => trivial) here

theorem names_finalizeAndRecord {pending : PendingSpend} {arkTxid : Txid}
    {finalCheckpoints : List Psbt} (parsed : B.parseTxid pending.arkTxid = .ok arkTxid) :
    Confined (Names B pending.arkTxid)
      (finalizeAndRecord store pending arkTxid finalCheckpoints).run := by
  refine (confined_finalizeAndRecord ..).mono fun request member => ?_
  cases member with
  | finalize => exact parsed
  | mark mark => cases mark <;> trivial

theorem names_upgradeAndFinalize {pending : PendingSpend} {arkTxid : Txid}
    {finalCheckpoints : List Psbt} (parsed : B.parseTxid pending.arkTxid = .ok arkTxid) :
    Confined (Names B pending.arkTxid)
      (upgradeAndFinalize store pending arkTxid finalCheckpoints).run := by
  refine (confined_upgradeAndFinalize ..).mono fun request member => ?_
  cases member with
  | save => rfl
  | finalize member =>
      cases member with
      | finalize => exact parsed
      | mark mark => cases mark <;> trivial

/-! ## The calls -/

/-- A submit for the transaction of the record keeps to it. -/
theorem safe_submit_bound {id : String} {pending : PendingSpend} {arkTx : Psbt}
    {unsignedCheckpoints : List Psbt} {partyCps : List (List Psbt)} {firstAttempt : Bool}
    {stored s : Shelf} (found : ∀ record, stored = some record → RecordMatches B record)
    (parsed : B.parseTxid pending.arkTxid = .ok (B.computeTxid arkTx.unsignedTx))
    (here : s.Names pending.arkTxid) :
    Safe (shelf id) (binding B stored)
      (submitAndFinalize B store pending arkTx unsignedCheckpoints partyCps firstAttempt).run
      s := by
  have names : Names B pending.arkTxid (.submit arkTx unsignedCheckpoints) := parsed
  refine safe_submitAndFinalize ((permits_names found names here).mono fun outcome s' here' => ?_)
  refine ⟨fun e _ => ?_, fun reply canonical _ _ => ⟨trivial, fun finalCheckpoints _ => ?_⟩⟩
  · refine safe_of_names found ((confined_submitFailed ..).mono fun request member => ?_) here'
    obtain ⟨_, _, member⟩ := member
    cases member <;> trivial
  · exact safe_of_names found (names_upgradeAndFinalize parsed) here'

/-- A record whose transaction is the recorded one when it is submitted again. -/
def ResubmitsRecorded (B : BitcoinLib) (pending : PendingSpend) : Prop :=
  ∀ arkTx unsignedCheckpoints partyCps,
    Resubmittable B pending arkTx unsignedCheckpoints partyCps →
    B.parseTxid pending.arkTxid = .ok (B.computeTxid arkTx.unsignedTx)

theorem safe_resume_bound {id : String} {pending : PendingSpend}
    (resubmits : ResubmitsRecorded B pending) :
    Safe (shelf id) (binding B (some pending)) (resumeRecorded B store pending).run
      (some pending) := by
  have here : Shelf.Names pending.arkTxid (some pending) := by
    rintro _ ⟨⟩
    rfl
  refine safe_resumeRecorded ?_ ?_
  · intro evidence canonical _ _
    refine ⟨trivial, fun arkTxid finalCheckpoints finalizable => ?_⟩
    refine safe_of_names ?_ (names_finalizeAndRecord finalizable.parsed) here
    rintro _ ⟨⟩
    exact .submitted finalizable
  · intro arkTx unsignedCheckpoints partyCps resubmittable
    have parsed := resubmits _ _ _ resubmittable
    refine safe_submit_bound ?_ parsed here
    rintro _ ⟨⟩
    exact .submitting resubmittable parsed

/-- **A call keeps to the recorded transaction**, if what it would submit again is it. -/
theorem safe_call_bound (txids : B.TxidRoundTrips) {call : Call} {stored : Shelf}
    (resubmits : ∀ record, stored = some record → Proceeds B call record →
      ResubmitsRecorded B record) :
    Safe (shelf call.id) (binding B stored) (call.program B store) stored := by
  have silent {request : Ask} {s : Shelf} (unsent : request.txid? B = none) :
      (binding B stored).allow s request := by
    intro txid about
    rw [unsent] at about
    cases about
  refine safe_call (permits_shelf (silent rfl) trivial trivial fun answer s' reply => ?_)
  cases answer with
  | error e => exact ⟨by rintro _ ⟨⟩, by rintro _ _ _ _ _ ⟨⟩⟩
  | ok found =>
      obtain ⟨same, rfl⟩ := reply
      obtain rfl := same rfl
      constructor
      · rintro pending ⟨⟩ proceeds
        exact safe_resume_bound (resubmits pending rfl proceeds)
      · rintro id arkTx unsignedCheckpoints partyCps rfl ⟨⟩ valid
        refine permits_shelf (silent rfl) trivial trivial fun bytes s₂ reply => ?_
        obtain rfl : s₂ = none := by simpa [Shelf.effect] using reply.cases
        refine permits_shelf (silent rfl) trivial trivial fun saved s₃ reply => ?_
        rintro rfl
        refine safe_submit_bound (by rintro _ ⟨⟩) (txids _) ?_
        obtain rfl : s₃ = _ := reply
        simp [Shelf.Names, Shelf.effect, freshRecord, Call.id]

/-- A submit that follows the load has to be for the recorded transaction. -/
theorem BoundToRecord.resubmits {call : Call} {record : PendingSpend}
    (bound : BoundToRecord B store call (some record)) (proceeds : Proceeds B call record) :
    ResubmitsRecorded B record := by
  intro arkTx unsignedCheckpoints partyCps resubmittable
  have run := emits_call_found store proceeds
    (emits_resumeRecorded_submitting resubmittable emits_submit)
  have follows : Follows (shelf call.id) (some record)
      [.sent (.load call.id), .answered (.load call.id) (.ok (some record))] (some record) :=
    .sent _ (.answered _ ⟨fun _ => rfl, rfl⟩ (.nil _))
  exact (bound _ _ _ _ _ run follows rfl).1 record rfl

/-- **When an id is bound to its recorded transaction**: whatever is stored under the id and
whatever store and server answer, every message of a call is for the transaction of the
record that is there, and a record that does not match is refused before the first message,
if and only if the transaction that the call finds to submit again is the recorded one. -/
theorem bound_to_record_iff (txids : B.TxidRoundTrips) (call : Call) (stored : Shelf) :
    BoundToRecord B store call stored ↔
      ∀ record, stored = some record → Proceeds B call record → ResubmitsRecorded B record := by
  constructor
  · rintro bound record rfl proceeds
    exact bound.resubmits proceeds
  · intro resubmits before request after s txid run follows about
    exact Emits.allowed (D := binding B stored) run trivial (safe_call_bound txids resubmits)
      follows txid about

/-- A record that was stored as it was written. -/
theorem bound_to_record_sample :
    BoundToRecord BitcoinLib.reference ⟨true, true⟩ (.resume "escrow")
      (some (freshRecord BitcoinLib.reference "escrow" (Sample.arkTx [Sample.checkpoint 1 ∅])
        [Sample.checkpoint 1 ∅] [[Sample.checkpoint 1 ∅]] "token")) := by
  refine (bound_to_record_iff BitcoinLib.txidRoundTrips_reference _ _).mpr ?_
  rintro _ ⟨⟩ _ arkTx _ _ resubmittable
  have wellFormed : Call.WellFormed (.spend "escrow" (Sample.arkTx [Sample.checkpoint 1 ∅])
      [Sample.checkpoint 1 ∅] [[Sample.checkpoint 1 ∅]]) := by simp [Call.WellFormed]
  obtain ⟨rfl, _⟩ := resubmittable.eq_of_freshRecord BitcoinLib.psbtRoundTrips_reference wellFormed
  exact BitcoinLib.txidRoundTrips_reference _

/-- A record at stage `submitting` whose recorded txid is that of another transaction: the
recorded transaction is submitted nevertheless. -/
theorem not_always_bound_to_record :
    ¬ ∀ (B : BitcoinLib) (store : SpendStore), B.TxidRoundTrips →
      ∀ call stored, BoundToRecord B store call stored := by
  intro always
  let cp := Sample.checkpoint 1 ∅
  have single : ∀ other ∈ [cp], other.WellFormed := by simp [cp]
  let written := freshRecord BitcoinLib.reference "escrow" (Sample.arkTx [cp]) [cp] [[cp]] "token"
  let altered := { written with arkTxid := BitcoinLib.reference.txidToString ⟨1⟩ }
  have trips := BitcoinLib.psbtRoundTrips_reference
  have txids := BitcoinLib.txidRoundTrips_reference
  have bound := always BitcoinLib.reference ⟨true, true⟩ txids (.resume "escrow") (some altered)
  have recorded : BitcoinLib.reference.parseTxid altered.arkTxid = .ok ⟨1⟩ := by
    dsimp only [altered]
    exact txids ⟨1⟩
  have resubmittable : Resubmittable BitcoinLib.reference altered (Sample.arkTx [cp]) [cp] [[cp]] :=
    { stage := rfl
      parsed := ⟨_, recorded⟩
      decoded := decodeArkTx_freshRecord trips "escrow" (Sample.wellFormed_arkTx [cp]) [cp] [[cp]]
        "token"
      unsigned := decodeCheckpoints_map trips _ single
      parties := decodePartyCheckpoints_map trips (by simpa using single) }
  have parsed := bound.resubmits trivial _ _ _ resubmittable
  have same := Except.ok.inj (recorded.symm.trans parsed)
  simp [BitcoinLib.reference, Sample.arkTx] at same

end Client
end ArkadeEscrow
