import ArkadeEscrow.Client.Shelf
import ArkadeEscrow.Client.Traces
import ArkadeEscrow.Interaction.Sequence
import ArkadeEscrow.Record
import ArkadeEscrow.Reference

/-!
# Records of the first release

The first release wrote three fields. Such a record loads as one at stage `submitted`, but
without the server's co-signature on the ark transaction, so nobody can tell whether its
checkpoints may be released. The client refuses to: no call under its id sends anything, and the
record stays as it is (`legacy_record_sends_nothing`).
-/

set_option autoImplicit false

namespace ArkadeEscrow

/-- The JSON of a record has neither a stage nor the server's co-signature. -/
def PendingSpend.Legacy (members : List (String × Json)) : Prop :=
  ∀ f : PendingSpend.Field, f = .stage ∨ f = .serverSignedArkTx →
    PendingSpend.schema.membersOf f members = []

theorem PendingSpend.Legacy.of_ofJson {members : List (String × Json)} {record : PendingSpend}
    (legacy : PendingSpend.Legacy members)
    (loads : PendingSpend.ofJson (.object members) = some record) :
    record.stage = .submitted ∧ record.serverSignedArkTx = none := by
  have gives := PendingSpend.ofJson_eq_some_iff_gives.mp loads
  have default (f : PendingSpend.Field) (missing : f = .stage ∨ f = .serverSignedArkTx) :
      f.default = some (record.values f) := by
    rcases gives f with ⟨_, one, _⟩ | ⟨_, default⟩
    · rw [legacy f missing] at one
      cases one
    · exact default
  exact ⟨(Option.some.inj (default .stage (.inl rfl))).symm,
    (Option.some.inj (default .serverSignedArkTx (.inr rfl))).symm⟩

namespace Client

open Interaction Program

variable {B : BitcoinLib} {store : SpendStore} {id : String} {record : PendingSpend}

/-- The record is left alone: it is loaded, and that is all. -/
def untouched (id : String) (record : PendingSpend) : Discipline interface Shelf where
  allow _ request := request = .load id
  keep s := s = some record

/-- A record without a co-signature is not finalized. -/
theorem not_finalizable (stage : record.stage = .submitted)
    (missing : record.serverSignedArkTx = none)
    {post : Txid → Shelf → Prop} :
    Fallible.Achieves (shelf id) (untouched id record) post (resumeRecorded B store record)
      (some record) := by
  refine achieves_resumeRecorded (fun _ finalized => ?_) (fun evidence canonical _ _ => ?_)
    fun _ _ _ resubmittable => ?_
  · rw [stage] at finalized
    cases finalized
  · refine ⟨rfl, fun arkTxid finalCheckpoints finalizable => ?_⟩
    have decoded := finalizable.decoded
    rw [decodeEvidence, missing] at decoded
    cases decoded
  · have submitting := resubmittable.stage
    rw [stage] at submitting
    cases submitting

/-- A call that finds such a record fails. -/
theorem upholds_call_untouched (stage : record.stage = .submitted)
    (missing : record.serverSignedArkTx = none) {call : Call} (own : call.id = id) :
    (call.program B store).Upholds (shelf id) (untouched id record)
      (fun r _ => ∃ e, r = .error e) (some record) := by
  subst own
  have fails : (call.program B store).Upholds (shelf call.id) (untouched call.id record)
      (fun r _ => ∀ result, r = .ok result → False) (some record) := by
    refine upholds_call (permits_shelf rfl rfl rfl fun answer s' reply => ?_)
    cases answer with
    | error e => exact ⟨nofun, nofun, nofun⟩
    | ok found =>
        obtain ⟨loaded, rfl⟩ := reply
        obtain rfl : found = some record := loaded rfl
        refine ⟨nofun, ?_, nofun⟩
        rintro pending ⟨⟩ _
        exact not_finalizable stage missing
  refine fails.mono fun r _ never => ?_
  cases r with
  | ok result => exact (never result rfl).elim
  | error e => exact ⟨e, rfl⟩

/-- **A record of the first release is neither finalized nor submitted again.** Whatever calls are
made under its id, and wherever they end: they load the record, they fail, and it stays. -/
theorem legacy_record_sends_nothing {members : List (String × Json)}
    (legacy : PendingSpend.Legacy members)
    (loads : PendingSpend.ofJson (.object members) = some record)
    {h : List (Event interface)} {t : Thread interface (Except Error (Option Txid))} {s : Shelf}
    (run : Sequence (shelf id) (Call.program B store) (fun call => call.id = id) (fun s => s)
      (some record) h t s) :
    s = some record ∧ (∀ request, .sent request ∈ h → request = .load id) ∧
      ∀ r, t = .running (.done r) → ∃ e, r = .error e := by
  obtain ⟨stage, missing⟩ := legacy.of_ofJson loads
  have maintains (call : Call) (s : Shelf) (own : call.id = id)
      (kept : (untouched id record).keep s) : (untouched id record).keep s ∧
      (call.program B store).Upholds (shelf id) (untouched id record)
        (fun r _ => ∃ e, r = .error e) s :=
    ⟨kept, kept ▸ upholds_call_untouched stage missing own⟩
  obtain ⟨thread, allowed⟩ := run.upholds maintains rfl
  refine ⟨thread.keep, fun request sent => (allowed request sent).elim fun _ same => same, ?_⟩
  rintro r rfl
  exact thread.2

variable (store) in
/-- A resumption of such a record fails before it sends anything. -/
theorem exists_ends_unsigned {arkTxid : Txid} (parsed : B.parseTxid record.arkTxid = .ok arkTxid)
    (stage : record.stage = .submitted) (missing : record.serverSignedArkTx = none) :
    ∃ e, Returns (resumeRecorded B store record).run [] (.error e) := by
  obtain ⟨e, unsigned⟩ : ∃ e, decodeEvidence B record arkTxid = .error e := by
    rw [decodeEvidence, missing]
    exact ⟨_, rfl⟩
  refine ⟨e, ?_⟩
  rw [resumeRecorded]
  apply ends_check_bind (by simpa using parsed)
  rw [stage]
  show Returns (resumeSubmitted B store record arkTxid).run [] (.error e)
  rw [resumeSubmitted, unsigned]
  exact .stop _

/-- A record of the first release, with a field that nobody knows. -/
def Sample.legacyJson : List (String × Json) :=
  [("version", .number "1"),
    ("ark_txid", .string "0000000000000000000000000000000000000000000000000000000000000000"),
    ("id", .string "trade"), ("signed_checkpoints", .array [.string "cHNidP8="])]

/-- What it loads as. -/
def Sample.legacyRecord : PendingSpend where
  id := "trade"
  arkTxid := "0000000000000000000000000000000000000000000000000000000000000000"
  signedCheckpoints := ["cHNidP8="]
  stage := .submitted
  token := ""
  arkTx := none
  unsignedCheckpoints := []
  partySignedCheckpoints := []
  serverSignedArkTx := none

theorem Sample.ofJson_legacyJson :
    PendingSpend.ofJson (.object Sample.legacyJson) = some Sample.legacyRecord := rfl

/-- It is loaded, and the resumption fails. -/
theorem legacy_record_sends_nothing_sample :
    ∃ (h : List (Event interface)) (r : Except Error (Option Txid)) (s : Shelf),
      Sequence (shelf "trade") (Call.program .reference ⟨true, true⟩)
        (fun call => call.id = "trade") (fun s => s) (some Sample.legacyRecord) h
        (.running (.done r)) s ∧
      .answered (.load "trade") (.ok (some Sample.legacyRecord)) ∈ h ∧
      (∃ e, r = .error e) ∧ s = some Sample.legacyRecord := by
  have legacy : PendingSpend.Legacy Sample.legacyJson := by
    rintro f (rfl | rfl) <;> rfl
  have parsed : BitcoinLib.reference.parseTxid Sample.legacyRecord.arkTxid = .ok ⟨0⟩ := by
    rfl
  obtain ⟨e, fails⟩ := exists_ends_unsigned ⟨true, true⟩ parsed rfl rfl
  have run : Returns ((Call.resume "trade").program .reference ⟨true, true⟩) _ _ :=
    ends_call_found trivial fails
  have loaded : (shelf "trade").answered (some Sample.legacyRecord) (.load "trade")
      (.ok (some Sample.legacyRecord)) (some Sample.legacyRecord) := ⟨fun _ => rfl, rfl⟩
  have calls : Sequence (shelf "trade") (Call.program .reference ⟨true, true⟩)
      (fun call => call.id = "trade") (fun s => s) (some Sample.legacyRecord) _ _ _ :=
    .first rfl run (.sent _ (.answered _ loaded (.nil _)))
  obtain ⟨same, _, fails⟩ := legacy_record_sends_nothing legacy Sample.ofJson_legacyJson calls
  exact ⟨_, _, _, calls, by simp [Call.id], fails _ rfl, same⟩

end Client
end ArkadeEscrow
