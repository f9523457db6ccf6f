import ArkadeEscrow.Client.Attempt
import ArkadeEscrow.Client.Desk
import ArkadeEscrow.Client.Shelf
import ArkadeEscrow.Client.Traces
import ArkadeEscrow.Interaction.Refinement
import ArkadeEscrow.Record
import ArkadeEscrow.Reference

/-!
# Outstanding submits

A submit is outstanding from the moment it leaves the process until the server answers a submit
with a definitive rejection: all that time the server may hold the inputs locked. `outstanding`
reads this off the events alone, whoever has sent what in which call.

As long as a submit is outstanding, the record of its id has what a retry needs (`Holds`): the
very message, to send it again, or the co-signed transaction that answered it. `Held.safe_call`
says that every call keeps it so, for every record that the store may have held before, whatever
the store and the server answer, and wherever the call breaks off.
-/

set_option autoImplicit false

namespace ArkadeEscrow
namespace Client

open Interaction Program

/-- What a submit sends: the ark transaction, and the unsigned checkpoints. -/
abbrev SubmitTx := Psbt × List Psbt

/-- The submit that is outstanding after an event. -/
def outstandingNext (o : Option SubmitTx) : Event interface → Option SubmitTx
  | .sent (.submit arkTx checkpointTxs) => some (arkTx, checkpointTxs)
  | .answered (.submit _ _) outcome => if rejects outcome then none else o
  | _ => o

theorem outstandingNext_noted (o : Option SubmitTx) (remark : Note) :
    outstandingNext o (.noted remark) = o := rfl

/-- The submit that is outstanding after these events. -/
def outstanding (events : List (Event interface)) : Option SubmitTx :=
  events.foldl outstandingNext none

/-- The record has what a retry of the submit needs. -/
def Holds (B : BitcoinLib) (sub : SubmitTx) (record : PendingSpend) : Prop :=
  match record.stage with
  | .submitting =>
      decodeArkTx B record = .ok sub.1 ∧
      decodeCheckpoints B "decoding persisted unsigned checkpoints" record.unsignedCheckpoints =
        .ok sub.2 ∧
      ∃ partyCps, decodePartyCheckpoints B record.partySignedCheckpoints = .ok partyCps
  | .submitted | .finalized =>
      record.arkTxid = B.txidToString (B.computeTxid sub.1.unsignedTx) ∧
      ∃ serverSigned canonical, Spend.verifyServerArkTxSig B sub.1 serverSigned = .ok canonical ∧
        record.serverSignedArkTx = some (B.psbtToBase64 canonical)

variable {B : BitcoinLib} {store : SpendStore} {id : String} {sub : SubmitTx}

theorem holds_freshRecord (trips : B.PsbtRoundTrips) {arkTx : Psbt}
    {unsignedCheckpoints : List Psbt} {partyCps : List (List Psbt)}
    (wellFormed : Call.WellFormed (.spend id arkTx unsignedCheckpoints partyCps))
    (token : String) :
    Holds B (arkTx, unsignedCheckpoints)
      (freshRecord B id arkTx unsignedCheckpoints partyCps token) :=
  ⟨decodeArkTx_freshRecord trips id wellFormed.1 unsignedCheckpoints partyCps token,
    decodeCheckpoints_map trips _ wellFormed.2.1,
    partyCps, decodePartyCheckpoints_map trips wellFormed.2.2⟩

theorem Resubmittable.holds {pending : PendingSpend} {arkTx : Psbt}
    {unsignedCheckpoints : List Psbt} {partyCps : List (List Psbt)}
    (resubmittable : Resubmittable B pending arkTx unsignedCheckpoints partyCps) :
    Holds B (arkTx, unsignedCheckpoints) pending := by
  rw [Holds, resubmittable.stage]
  exact ⟨resubmittable.decoded, resubmittable.unsigned, partyCps, resubmittable.parties⟩

theorem Passes.holds {pending : PendingSpend} {arkTx : Psbt} {unsignedCheckpoints : List Psbt}
    {partyCps : List (List Psbt)} {reply : SubmitReply} {canonical : Psbt}
    {finalCheckpoints : List Psbt}
    (passes : Passes B pending arkTx unsignedCheckpoints partyCps reply canonical
      finalCheckpoints) (checkpointTxs : List Psbt) :
    Holds B (arkTx, checkpointTxs) (upgradedRecord B pending canonical finalCheckpoints) :=
  ⟨passes.sameTxid.symm, _, _, passes.verified, rfl⟩

theorem Holds.finalized {pending : PendingSpend} (holds : Holds B sub pending)
    (stage : pending.stage = .submitted) : Holds B sub (finalizedRecord pending) := by
  rw [Holds, stage] at holds
  exact holds

/-! ## The invariant -/

/-- The record of an id, and the submit that is outstanding. -/
abbrev Ward := Shelf × Option SubmitTx

/-- What is outstanding is held. -/
structure Held (B : BitcoinLib) (id : String) (x : Ward) : Prop where
  named : ∀ record, x.1 = some record → record.id = id
  held : ∀ sub, x.2 = some sub → ∃ record, x.1 = some record ∧ Holds B sub record

/-- Requests stay on the id, and what is outstanding is held. -/
def holding (B : BitcoinLib) (id : String) : Discipline interface Ward where
  allow _ request := request.key id = id
  keep := Held B id

/-- The shelf of an id, and what is outstanding. -/
abbrev warden (id : String) : Observer interface Ward :=
  (shelf id).watched (Watch.ofEvents Shelf outstandingNext)

variable {x : Ward} {o : Option SubmitTx}

/-- What may be asked while this is outstanding: writing a record that holds it, and removing
the record only if there is nothing outstanding. -/
inductive Tends (B : BitcoinLib) (id : String) (o : Option SubmitTx) : Ask → Prop where
  | newToken : Tends B id o .newToken
  | load : Tends B id o (.load id)
  | finalize (arkTxid : Txid) (checkpoints : List Psbt) :
      Tends B id o (.finalize arkTxid checkpoints)
  | save {spend : PendingSpend} : spend.id = id → (∀ sub, o = some sub → Holds B sub spend) →
      Tends B id o (.save spend)
  | saveIf {spend : PendingSpend} : spend.id = id → (∀ sub, o = some sub → Holds B sub spend) →
      Tends B id o (.saveIf spend)
  | remove : o = none → Tends B id o (.remove id)
  | removeIf {token : String} : o = none → Tends B id o (.removeIf id token)

theorem Tends.key_eq {request : Ask} (tends : Tends B id o request) : request.key id = id := by
  cases tends with
  | save own => exact own
  | saveIf own => exact own
  | _ => rfl

theorem Tends.next_sent {request : Ask} (tends : Tends B id o request) (o' : Option SubmitTx) :
    outstandingNext o' (.sent request) = o' := by
  cases tends <;> rfl

theorem Tends.next_answered {request : Ask} (tends : Tends B id o request)
    (o' : Option SubmitTx) (answer : request.Answer) :
    outstandingNext o' (.answered request answer) = o' := by
  cases tends <;> rfl

theorem Held.effect (held : Held B id x) {request : Ask} (tends : Tends B id x.2 request) :
    Held B id (x.1.effect id request, x.2) := by
  have write {spend : PendingSpend} (own : spend.id = id)
      (holds : ∀ sub, x.2 = some sub → Holds B sub spend) : Held B id (some spend, x.2) :=
    ⟨by rintro _ ⟨⟩; exact own, fun sub out => ⟨spend, rfl, holds sub out⟩⟩
  have clear (nothing : x.2 = none) : Held B id (none, x.2) :=
    ⟨by rintro _ ⟨⟩, fun sub out => by rw [nothing] at out; cases out⟩
  cases tends with
  | save own holds =>
      rw [Shelf.effect_save own]
      exact write own holds
  | saveIf own holds =>
      rw [Shelf.effect]
      split
      · exact write own holds
      · exact held
  | remove nothing =>
      rw [Shelf.effect, if_pos rfl]
      exact clear nothing
  | removeIf nothing =>
      rw [Shelf.effect]
      split
      · exact clear nothing
      · exact held
  | _ => exact held

/-- **These requests keep what is outstanding held**, whatever becomes of them. -/
theorem Held.permits (held : Held B id x) {request : Ask} (tends : Tends B id x.2 request) :
    Permits (warden id) (holding B id) request (fun answer x' =>
      x.1.Answered id request answer x'.1 ∧ Held B id x' ∧ x'.2 = x.2) x := by
  have sent : (warden id).sent x request = x :=
    Prod.ext rfl (tends.next_sent x.2)
  have either {s' : Shelf} (left : s' = x.1 ∨ s' = x.1.effect id request) :
      Held B id (s', x.2) := by
    rcases left with rfl | rfl
    · exact held
    · exact held.effect tends
  rw [Permits, sent]
  refine ⟨tends.key_eq, held, ?_, ?_⟩
  · rintro ⟨s', o'⟩ ⟨lost, same⟩
    obtain rfl : o' = x.2 := same
    exact either lost
  · rintro answer ⟨s', o'⟩ ⟨reply, same⟩
    obtain rfl : o' = x.2 := same.trans (tends.next_answered x.2 answer)
    exact ⟨either reply.cases, reply, either reply.cases, rfl⟩

/-- A program that only asks such things is safe. -/
theorem Held.safe (held : Held B id x) {α : Type} {p : Program interface α} {asks : Ask → Prop}
    (confined : Confined asks p) (tends : ∀ request, asks request → Tends B id x.2 request) :
    Safe (warden id) (holding B id) p x := by
  refine confined.upholds (J := fun x' => Held B id x' ∧ x'.2 = x.2) ?_ (fun _ _ _ => trivial)
    ⟨held, rfl⟩
  rintro request x' member ⟨held', same⟩
  refine (held'.permits (same ▸ tends request member)).mono ?_
  rintro answer x'' ⟨_, held'', same'⟩
  exact ⟨held'', same'.trans same⟩

/-! ## The parts of a call -/

theorem tends_saveIf {request : Ask} {spend : PendingSpend} (asks : SaveIfAsks spend request)
    (own : spend.id = id) (holds : ∀ sub, o = some sub → Holds B sub spend) :
    Tends B id o request := by
  cases asks with
  | own => exact .saveIf own holds
  | load => exact own ▸ .load
  | save => exact .save own holds

theorem tends_removeIf {request : Ask} {token : String} (asks : RemoveIfAsks id token request)
    (nothing : o = none) : Tends B id o request := by
  cases asks with
  | own => exact .removeIf nothing
  | load => exact .load
  | remove => exact .remove nothing

/-- **Finalizing is safe**, if the record holds what is outstanding. -/
theorem Held.safe_finalize (held : Held B id x) {pending : PendingSpend} (own : pending.id = id)
    (holds : ∀ sub, x.2 = some sub → Holds B sub (finalizedRecord pending)) (arkTxid : Txid)
    (finalCheckpoints : List Psbt) :
    Safe (warden id) (holding B id)
      (finalizeAndRecord store pending arkTxid finalCheckpoints).run x := by
  refine held.safe (confined_finalizeAndRecord ..) fun request asks => ?_
  cases asks with
  | finalize => exact .finalize ..
  | mark asks => exact tends_saveIf asks own holds

/-- Upgrading is safe, if the upgraded record holds what is outstanding. -/
theorem Held.safe_upgrade (held : Held B id x) {pending : PendingSpend} (own : pending.id = id)
    (stage : pending.stage = .submitted) (holds : ∀ sub, x.2 = some sub → Holds B sub pending)
    (arkTxid : Txid) (finalCheckpoints : List Psbt) :
    Safe (warden id) (holding B id)
      (upgradeAndFinalize store pending arkTxid finalCheckpoints).run x := by
  refine held.safe (confined_upgradeAndFinalize ..) fun request asks => ?_
  cases asks with
  | save => exact .save own holds
  | finalize asks =>
      cases asks with
      | finalize => exact .finalize ..
      | mark asks =>
          exact tends_saveIf asks own fun sub out => (holds sub out).finalized stage

/-- **Submitting is safe**, under a record that holds what is submitted. -/
theorem Held.safe_submit (held : Held B id x) {pending : PendingSpend} (own : pending.id = id)
    {arkTx : Psbt} {unsignedCheckpoints : List Psbt} {partyCps : List (List Psbt)}
    (stored : x.1 = some pending) (holds : Holds B (arkTx, unsignedCheckpoints) pending)
    (firstAttempt : Bool) :
    Safe (warden id) (holding B id)
      (submitAndFinalize B store pending arkTx unsignedCheckpoints partyCps firstAttempt).run
      x := by
  obtain ⟨s, o⟩ := x
  obtain rfl : s = some pending := stored
  have named := held.named
  have kept (o' : Option SubmitTx)
      (here : ∀ sub, o' = some sub → sub = (arkTx, unsignedCheckpoints)) :
      Held B id (some pending, o') :=
    ⟨named, fun sub out => ⟨pending, rfl, here sub out ▸ holds⟩⟩
  have sent := kept (some (arkTx, unsignedCheckpoints)) (by rintro _ ⟨⟩; rfl)
  refine safe_submitAndFinalize ⟨rfl, sent, ?_, ?_⟩
  · rintro ⟨s', o'⟩ ⟨lost, same⟩
    obtain rfl : o' = some (arkTx, unsignedCheckpoints) := same
    rcases lost with rfl | rfl <;> exact sent
  rintro outcome ⟨s', o'⟩ ⟨reply, same⟩
  obtain rfl : o' = if rejects outcome then none else some (arkTx, unsignedCheckpoints) := same
  replace reply : Shelf.Answered id (some pending) (.submit arkTx unsignedCheckpoints) outcome
    s' := reply
  obtain rfl : s' = some pending := reply.cases.elim (fun same => same) fun same => same
  have answered : Held B id
      (some pending, if rejects outcome then none else some (arkTx, unsignedCheckpoints)) := by
    refine kept _ fun sub out => ?_
    split at out
    · cases out
    · cases out
      rfl
  refine ⟨answered, fun e rejection => ?_, fun reply canonical finished verdict => ?_⟩
  · refine answered.safe (confined_submitFailed ..) fun request asks => ?_
    obtain ⟨_, rejected, asks⟩ := asks
    rw [own] at asks
    exact tends_removeIf asks (if_pos (rejection.symm.trans rejected))
  · subst finished
    refine ⟨answered, fun finalCheckpoints passes => ?_⟩
    have upgraded : (upgradedRecord B pending canonical finalCheckpoints).id = id := own
    refine answered.safe_upgrade upgraded rfl (fun sub out => ?_) _ _
    obtain rfl := Option.some.inj out
    exact passes.holds unsignedCheckpoints

/-! ## The calls -/

/-- **Every call keeps what is outstanding held.** -/
theorem Held.safe_call (trips : B.PsbtRoundTrips) {call : Call}
    (own : call.id = id ∧ call.WellFormed) (held : Held B id x) :
    Safe (warden id) (holding B id) (call.program B store) x := by
  obtain ⟨rfl, wellFormed⟩ := own
  refine Client.safe_call ((held.permits .load).mono fun answer x' after => ?_)
  obtain ⟨reply, held', same⟩ := after
  obtain ⟨s', o'⟩ := x'
  obtain rfl : o' = x.2 := same
  constructor
  · rintro pending rfl _
    obtain ⟨loaded, rfl⟩ : (call.id = call.id → some pending = x.1) ∧ s' = x.1 := reply
    have stored : x.1 = some pending := (loaded rfl).symm
    have own := held.named pending stored
    refine safe_resumeRecorded ?_ ?_
    · intro evidence canonical stage _
      refine ⟨held', fun arkTxid finalCheckpoints _ => ?_⟩
      refine held'.safe_finalize own (fun sub out => ?_) arkTxid finalCheckpoints
      obtain ⟨record, there, holds⟩ := held.held sub out
      obtain rfl := Option.some.inj (there.symm.trans stored)
      exact holds.finalized stage
    · intro arkTx unsignedCheckpoints partyCps resubmittable
      exact held'.safe_submit own stored resubmittable.holds false
  · rintro id' arkTx unsignedCheckpoints partyCps rfl rfl _
    obtain ⟨loaded, rfl⟩ : (_ → none = x.1) ∧ s' = x.1 := reply
    have nothing : x.2 = none := by
      cases out : x.2 with
      | none => rfl
      | some sub =>
          obtain ⟨record, there, _⟩ := held.held sub out
          cases (loaded rfl).trans there
    refine (held'.permits .newToken).mono fun bytes x₂ after => ?_
    obtain ⟨_, held₂, same₂⟩ := after
    have quiet : x₂.2 = none := same₂.trans nothing
    refine (held₂.permits (.save rfl fun sub out => ?_)).mono fun saved x₃ after => ?_
    · rw [quiet] at out
      cases out
    · obtain ⟨reply, held₃, _⟩ := after
      rintro rfl
      have stored : x₃.1 = some _ := reply.trans (Shelf.effect_save rfl _)
      exact held₃.safe_submit rfl stored (holds_freshRecord trips wellFormed _) true

/-! ## A sample submit -/

namespace Sample

def bytes : Vector UInt8 16 := .replicate 16 0

/-- A spend of one checkpoint. -/
noncomputable def submitTx : SubmitTx :=
  (Sample.arkTx [Sample.checkpoint 1 ∅], [Sample.checkpoint 1 ∅])

/-- Its record before the submit. -/
noncomputable def pending : PendingSpend :=
  freshRecord .reference "trade" submitTx.1 submitTx.2 [submitTx.2] (PendingSpend.newToken bytes)

noncomputable def call : Call := .spend "trade" submitTx.1 submitTx.2 [submitTx.2]

theorem wellFormed_call : call.WellFormed := by
  simp [call, submitTx, Call.WellFormed]

/-- The call, as far as its submit. -/
noncomputable def submitted : List (Event interface) :=
  [.sent (.load "trade"), .answered (.load "trade") (.ok none), .sent .newToken,
    .answered .newToken bytes, .sent (.save pending), .answered (.save pending) (.ok ())] ++
  [.sent (.submit submitTx.1 submitTx.2)]

theorem emits_submitted (store : SpendStore) : Emits (call.program .reference store) submitted :=
  emits_call_fresh bytes (validateCheckpoints_self (List.cons_ne_nil _ _)) emits_submit

theorem outstanding_submitted : outstanding submitted = some submitTx := rfl

def quoted (text : String) : String := "\"" ++ text ++ "\""

/-- The JSON of the record. -/
noncomputable def compact : String :=
  "\x7b\"id\":\"trade\",\"ark_txid\":" ++ quoted pending.arkTxid ++
  ",\"signed_checkpoints\":[],\"stage\":\"submitting\",\"token\":" ++ quoted pending.token ++
  ",\"ark_tx\":" ++ pending.arkTx.elim "null" quoted ++
  ",\"unsigned_checkpoints\":[" ++ ",".intercalate (pending.unsignedCheckpoints.map quoted) ++
  "],\"party_signed_checkpoints\":[[" ++
  ",".intercalate (pending.partySignedCheckpoints.flatten.map quoted) ++
  "]],\"server_signed_ark_tx\":null\x7d"

noncomputable def pretty : String :=
  "\x7b\n  \"id\": \"trade\",\n  \"ark_txid\": " ++ quoted pending.arkTxid ++
  ",\n  \"signed_checkpoints\": [],\n  \"stage\": \"submitting\",\n  \"token\": " ++
  quoted pending.token ++ ",\n  \"ark_tx\": " ++ pending.arkTx.elim "null" quoted ++
  ",\n  \"unsigned_checkpoints\": [\n    " ++
  ",\n    ".intercalate (pending.unsignedCheckpoints.map quoted) ++
  "\n  ],\n  \"party_signed_checkpoints\": [\n    [\n      " ++
  ",\n      ".intercalate (pending.partySignedCheckpoints.flatten.map quoted) ++
  "\n    ]\n  ],\n  \"server_signed_ark_tx\": null\n\x7d"

/-- The texts of one record. -/
noncomputable def jsonText : JsonText where
  toString json :=
    if PendingSpend.ofJson json = some pending then .ok compact else .error "not the sample record"
  toStringPretty json :=
    if PendingSpend.ofJson json = some pending then .ok pretty else .error "not the sample record"
  parse text :=
    if text = compact ∨ text = pretty then .ok pending.toJson else .error "not the sample record"
  dataError _ := "not the sample record"

theorem roundTrips_jsonText : jsonText.RoundTrips := by
  have written {spend : PendingSpend} {text text' : String}
      (written : (if PendingSpend.ofJson spend.toJson = some pending then .ok text
        else .error "not the sample record" : Except String String) = .ok text') :
      spend = pending ∧ text = text' := by
    rw [PendingSpend.ofJson_toJson] at written
    split at written
    · next same => exact ⟨Option.some.inj same, Except.ok.inj written⟩
    · cases written
  constructor
  · intro spend text compact
    obtain ⟨rfl, rfl⟩ := written compact
    exact if_pos (.inl rfl)
  · intro spend text pretty
    obtain ⟨rfl, rfl⟩ := written pretty
    exact if_pos (.inr rfl)

end Sample

end Client
end ArkadeEscrow
