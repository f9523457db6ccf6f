import ArkadeEscrow.Client.Merge
import ArkadeEscrow.Client.Traces

/-!
# The calls of one attempt

An attempt starts with a fresh call, which writes its record. Calls that find that record
later belong to the attempt too: they submit the same data again, because the record holds
it and decodes to it (`Attempt.source_eq`). So every request of an attempt can be traced to
the arguments of its first call, whichever call sends it.
-/

set_option autoImplicit false

namespace ArkadeEscrow
namespace Client

open Interaction

variable {B : BitcoinLib} {store : SpendStore}

/-! ## What is recorded is read back -/

theorem mapM_psbtFromBase64 (trips : B.PsbtRoundTrips) {psbts : List Psbt}
    (wellFormed : ∀ psbt ∈ psbts, psbt.WellFormed) :
    (psbts.map B.psbtToBase64).mapM B.psbtFromBase64 = .ok psbts := by
  rw [List.mapM_map, Results.mapM_eq_ok_iff, List.forall₂_same]
  exact fun psbt member => trips psbt (wellFormed psbt member)

theorem decodeCheckpoints_map (trips : B.PsbtRoundTrips) (text : String) {psbts : List Psbt}
    (wellFormed : ∀ psbt ∈ psbts, psbt.WellFormed) :
    decodeCheckpoints B text (psbts.map B.psbtToBase64) = .ok psbts := by
  rw [decodeCheckpoints, withContext_eq_ok_iff]
  exact mapM_psbtFromBase64 trips wellFormed

theorem decodePartyCheckpoints_map (trips : B.PsbtRoundTrips) {parties : List (List Psbt)}
    (wellFormed : ∀ cps ∈ parties, ∀ cp ∈ cps, cp.WellFormed) :
    decodePartyCheckpoints B (parties.map fun cps => cps.map B.psbtToBase64) = .ok parties := by
  rw [decodePartyCheckpoints, withContext_eq_ok_iff, List.mapM_map, Results.mapM_eq_ok_iff,
    List.forall₂_same]
  exact fun cps member => mapM_psbtFromBase64 trips (wellFormed cps member)

theorem decodeArkTx_freshRecord (trips : B.PsbtRoundTrips) (id : String) {arkTx : Psbt}
    (wellFormed : arkTx.WellFormed) (unsignedCheckpoints : List Psbt)
    (partyCps : List (List Psbt)) (token : String) :
    decodeArkTx B (freshRecord B id arkTx unsignedCheckpoints partyCps token) = .ok arkTx := by
  rw [decodeArkTx, withContext_eq_ok_iff]
  exact trips arkTx wellFormed

/-- A fresh record can be submitted again. -/
theorem resubmittable_freshRecord (trips : B.PsbtRoundTrips) (txids : B.TxidRoundTrips)
    {id : String} {arkTx : Psbt} {unsignedCheckpoints : List Psbt} {partyCps : List (List Psbt)}
    (wellFormed : Call.WellFormed (.spend id arkTx unsignedCheckpoints partyCps))
    (token : String) :
    Resubmittable B (freshRecord B id arkTx unsignedCheckpoints partyCps token) arkTx
      unsignedCheckpoints partyCps where
  stage := rfl
  parsed := ⟨_, txids _⟩
  decoded := decodeArkTx_freshRecord trips id wellFormed.1 ..
  unsigned := decodeCheckpoints_map trips _ wellFormed.2.1
  parties := decodePartyCheckpoints_map trips wellFormed.2.2

/-- **A fresh record is submitted again as it was written.** -/
theorem Resubmittable.eq_of_freshRecord (trips : B.PsbtRoundTrips) {id : String}
    {arkTx arkTx' : Psbt} {unsignedCheckpoints unsignedCheckpoints' : List Psbt}
    {partyCps partyCps' : List (List Psbt)} {token : String}
    (wellFormed : Call.WellFormed (.spend id arkTx unsignedCheckpoints partyCps))
    (resubmittable : Resubmittable B (freshRecord B id arkTx unsignedCheckpoints partyCps token)
      arkTx' unsignedCheckpoints' partyCps') :
    arkTx' = arkTx ∧ unsignedCheckpoints' = unsignedCheckpoints ∧ partyCps' = partyCps := by
  have decoded := decodeArkTx_freshRecord trips id wellFormed.1 unsignedCheckpoints partyCps token
  have unsigned := decodeCheckpoints_map trips "decoding persisted unsigned checkpoints"
    wellFormed.2.1
  have parties := decodePartyCheckpoints_map trips wellFormed.2.2
  exact ⟨Except.ok.inj (resubmittable.decoded.symm.trans decoded),
    Except.ok.inj (resubmittable.unsigned.symm.trans unsigned),
    Except.ok.inj (resubmittable.parties.symm.trans parties)⟩

/-! ## Attempts -/

/-- A record that an attempt has written: by its fresh call, after a reply that passed all
checks, or after a finalize. -/
inductive Written (B : BitcoinLib) (first : PendingSpend) (arkTx : Psbt)
    (unsignedCheckpoints : List Psbt) (partyCps : List (List Psbt))
    (replied : SubmitReply → Prop) : PendingSpend → Prop where
  | fresh : Written B first arkTx unsignedCheckpoints partyCps replied first
  | upgraded {reply : SubmitReply} {canonical : Psbt} {finalCheckpoints : List Psbt} :
      replied reply →
      Spend.verifyServerArkTxSig B arkTx reply.signedArkTx = .ok canonical →
      Merges B unsignedCheckpoints partyCps reply finalCheckpoints →
      Written B first arkTx unsignedCheckpoints partyCps replied
        (upgradedRecord B first canonical finalCheckpoints)
  | finalized {reply : SubmitReply} {canonical : Psbt} {finalCheckpoints : List Psbt} :
      replied reply →
      Spend.verifyServerArkTxSig B arkTx reply.signedArkTx = .ok canonical →
      Merges B unsignedCheckpoints partyCps reply finalCheckpoints →
      Written B first arkTx unsignedCheckpoints partyCps replied
        (finalizedRecord (upgradedRecord B first canonical finalCheckpoints))

section Written

variable {first pending : PendingSpend} {arkTx : Psbt} {unsignedCheckpoints : List Psbt}
  {partyCps : List (List Psbt)} {replied : SubmitReply → Prop}
  (written : Written B first arkTx unsignedCheckpoints partyCps replied pending)
include written

/-- The id, the txid and the token stay. -/
theorem Written.same : pending.id = first.id ∧ pending.arkTxid = first.arkTxid ∧
    pending.token = first.token := by
  cases written with
  | fresh => exact ⟨rfl, rfl, rfl⟩
  | upgraded => exact ⟨rfl, rfl, rfl⟩
  | finalized => exact ⟨rfl, rfl, rfl⟩

/-- At stage `submitting` the record is the first one. -/
theorem Written.eq_first (stage : pending.stage = .submitting) : pending = first := by
  cases written with
  | fresh => rfl
  | upgraded => cases stage
  | finalized => cases stage

/-- At a later stage the record holds the co-signed ark transaction and the merge of a reply
that passed the checks. -/
theorem Written.merged (initial : first.stage = .submitting)
    (stage : pending.stage ≠ .submitting) :
    ∃ reply canonical finalCheckpoints, replied reply ∧
      Spend.verifyServerArkTxSig B arkTx reply.signedArkTx = .ok canonical ∧
      Merges B unsignedCheckpoints partyCps reply finalCheckpoints ∧
      pending.serverSignedArkTx = some (B.psbtToBase64 canonical) ∧
      pending.signedCheckpoints = finalCheckpoints.map B.psbtToBase64 := by
  cases written with
  | fresh => exact absurd initial stage
  | upgraded answer verdict merged => exact ⟨_, _, _, answer, verdict, merged, rfl, rfl⟩
  | finalized answer verdict merged => exact ⟨_, _, _, answer, verdict, merged, rfl, rfl⟩

/-- A record at stage `submitted` may be marked finalized. -/
theorem Written.finalize (initial : first.stage = .submitting)
    (stage : pending.stage = .submitted) :
    Written B first arkTx unsignedCheckpoints partyCps replied (finalizedRecord pending) := by
  cases written with
  | fresh =>
      rw [initial] at stage
      cases stage
  | upgraded answer verdict merged => exact .finalized answer verdict merged
  | finalized => cases stage

theorem Written.mono {replied' : SubmitReply → Prop}
    (more : ∀ reply, replied reply → replied' reply) :
    Written B first arkTx unsignedCheckpoints partyCps replied' pending := by
  cases written with
  | fresh => exact .fresh
  | upgraded answer verdict merged => exact .upgraded (more _ answer) verdict merged
  | finalized answer verdict merged => exact .finalized (more _ answer) verdict merged

end Written

/-- A call of the attempt, and what it finds in the store: the fresh call finds nothing, and
every later one a record that the attempt has written. The submits of the attempt are
answered with `outcome`. -/
inductive Attempt (B : BitcoinLib) (id : String) (arkTx : Psbt) (unsignedCheckpoints : List Psbt)
    (partyCps : List (List Psbt)) (outcome : Outcome SubmitReply) :
    Call → Except Error (Option PendingSpend) → Prop where
  | first : Attempt B id arkTx unsignedCheckpoints partyCps outcome
      (.spend id arkTx unsignedCheckpoints partyCps) (.ok none)
  | retry {call : Call} {pending : PendingSpend} (bytes : Vector UInt8 16) : call.id = id →
      Written B (freshRecord B id arkTx unsignedCheckpoints partyCps (PendingSpend.newToken bytes))
        arkTx unsignedCheckpoints partyCps (fun reply => outcome = .finished (.ok reply)) pending →
      Attempt B id arkTx unsignedCheckpoints partyCps outcome call (.ok (some pending))

variable {id : String} {arkTx : Psbt} {unsignedCheckpoints : List Psbt}
  {partyCps : List (List Psbt)} {outcome : Outcome SubmitReply} {call : Call}
  {found : Except Error (Option PendingSpend)}

/-- **Every call of an attempt submits what the first one was given**, under the record that
the first one wrote. -/
theorem Attempt.source_eq (trips : B.PsbtRoundTrips)
    (wellFormed : Call.WellFormed (.spend id arkTx unsignedCheckpoints partyCps))
    (attempt : Attempt B id arkTx unsignedCheckpoints partyCps outcome call found)
    {pending : PendingSpend} {arkTx' : Psbt} {unsignedCheckpoints' : List Psbt}
    {partyCps' : List (List Psbt)}
    (source : Source B call found pending arkTx' unsignedCheckpoints' partyCps') :
    (arkTx' = arkTx ∧ unsignedCheckpoints' = unsignedCheckpoints ∧ partyCps' = partyCps) ∧
      ∃ bytes, pending = freshRecord B id arkTx unsignedCheckpoints partyCps
        (PendingSpend.newToken bytes) := by
  cases attempt with
  | first =>
      cases source with
      | fresh bytes same loaded valid =>
          cases same
          exact ⟨⟨rfl, rfl, rfl⟩, bytes, rfl⟩
      | resumed loaded => cases loaded
  | retry bytes _ written =>
      cases source with
      | fresh _ _ loaded => cases loaded
      | resumed loaded proceeds resubmittable =>
          cases loaded
          obtain rfl := written.eq_first resubmittable.stage
          exact ⟨resubmittable.eq_of_freshRecord trips wellFormed, bytes, rfl⟩

/-- The first call of an attempt submits what it was given. -/
theorem Source.first (valid : validateCheckpoints unsignedCheckpoints partyCps = .ok ())
    (bytes : Vector UInt8 16) :
    Source B (.spend id arkTx unsignedCheckpoints partyCps) (.ok none)
      (freshRecord B id arkTx unsignedCheckpoints partyCps (PendingSpend.newToken bytes)) arkTx
      unsignedCheckpoints partyCps :=
  .fresh bytes rfl rfl valid

/-- A reply that is co-signed and merges passes the checks of the attempt. -/
theorem passes_freshRecord {token : String} {reply : SubmitReply} {canonical : Psbt}
    {finalCheckpoints : List Psbt}
    (verified : Spend.verifyServerArkTxSig B arkTx reply.signedArkTx = .ok canonical)
    (merged : Merges B unsignedCheckpoints partyCps reply finalCheckpoints) :
    Passes B (freshRecord B id arkTx unsignedCheckpoints partyCps token) arkTx
      unsignedCheckpoints partyCps reply canonical finalCheckpoints :=
  ⟨verified, merged, rfl⟩

/-- A fresh call may finalize the merge of such a reply. -/
theorem releases_first (id : String) {reply : SubmitReply} {canonical : Psbt}
    {finalCheckpoints : List Psbt}
    (valid : validateCheckpoints unsignedCheckpoints partyCps = .ok ())
    (verified : Spend.verifyServerArkTxSig B arkTx reply.signedArkTx = .ok canonical)
    (merged : Merges B unsignedCheckpoints partyCps reply finalCheckpoints) :
    Releases B (.spend id arkTx unsignedCheckpoints partyCps) (.ok none) (.finished (.ok reply))
      arkTx finalCheckpoints :=
  .accepted rfl (.first valid (Vector.replicate 16 0)) (passes_freshRecord verified merged)

/-- **What an attempt may finalize**: the merge of a reply that was co-signed. -/
theorem Attempt.merged_of_releases (trips : B.PsbtRoundTrips)
    (wellFormed : Call.WellFormed (.spend id arkTx unsignedCheckpoints partyCps))
    (replied : ∀ reply, outcome = .finished (.ok reply) → reply.WellFormed)
    (attempt : Attempt B id arkTx unsignedCheckpoints partyCps outcome call found)
    {arkTx' : Psbt} {finalCheckpoints : List Psbt}
    (releases : Releases B call found outcome arkTx' finalCheckpoints) :
    ∃ reply canonical, outcome = .finished (.ok reply) ∧
      Spend.verifyServerArkTxSig B arkTx reply.signedArkTx = .ok canonical ∧
      Merges B unsignedCheckpoints partyCps reply finalCheckpoints := by
  cases releases with
  | accepted answer source passes =>
      obtain ⟨⟨rfl, rfl, rfl⟩, _⟩ := attempt.source_eq trips wellFormed source
      exact ⟨_, _, answer, passes.verified, passes.merged⟩
  | resumed loaded _ finalizable =>
      cases attempt with
      | first => cases loaded
      | retry _ _ written =>
          cases loaded
          have stage := finalizable.stage
          obtain ⟨reply, canonical, recorded, answer, verdict, merged, _, list⟩ :=
            written.merged rfl (by simp [stage])
          have checkpoints := finalizable.checkpoints
          have wellFormed := merged.wellFormed (replied reply answer)
          rw [list, decodeCheckpoints_map trips _ wellFormed] at checkpoints
          obtain rfl := Except.ok.inj checkpoints
          exact ⟨reply, canonical, answer, verdict, merged⟩

end Client
end ArkadeEscrow
