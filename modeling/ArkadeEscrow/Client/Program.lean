import ArkadeEscrow.Client.Interface
import ArkadeEscrow.Spend
import Mathlib.Data.List.FinRange

/-!
# The spend protocol of the client

`spendEscrowOffchain` and `resumePendingSpend` as programs over the store and the server.
A fresh call validates its arguments, records them and submits. A call that finds a record
resumes it from its stage: it submits again, or it finalizes what was recorded, or it
returns at once. Both ways to submit go through `submitAndFinalize`, and all ways to
finalize through `finalizeAndRecord`.
-/

set_option autoImplicit false

namespace ArkadeEscrow
namespace Client

open Interaction

variable (B : BitcoinLib) (store : SpendStore)

/-! ## Local steps -/

/-- The copies of party `i` match the unsigned checkpoints one by one. -/
def validateParty (unsignedCheckpoints : List Psbt) (i : Nat) (partyCps : List Psbt) :
    Except Error Unit := do
  let expected := unsignedCheckpoints.length
  let found := partyCps.length
  ensure (found == expected) s!"party {i} has {found} checkpoints, expected {expected}"
  (partyCps.zip unsignedCheckpoints).zipIdx.forM fun ((partyCp, unsignedCp), j) =>
    ensure
      (partyCp.unsignedTx == unsignedCp.unsignedTx &&
        partyCp.inputs.length == unsignedCp.inputs.length)
      s!"party {i} checkpoint {j} does not match unsigned checkpoint {j}"

/-- The checks of a fresh call on its checkpoints. -/
def validateCheckpoints (unsignedCheckpoints : List Psbt)
    (partySignedCheckpoints : List (List Psbt)) : Except Error Unit := do
  ensure (0 < unsignedCheckpoints.length) "no checkpoints to submit"
  partySignedCheckpoints.zipIdx.forM fun (partyCps, i) =>
    validateParty unsignedCheckpoints i partyCps

/-- The record of a fresh call. -/
def freshRecord (id : String) (mergedArkTx : Psbt) (unsignedCheckpoints : List Psbt)
    (partySignedCheckpoints : List (List Psbt)) (token : String) : PendingSpend where
  id := id
  arkTxid := B.txidToString (B.computeTxid mergedArkTx.unsignedTx)
  signedCheckpoints := []
  stage := .submitting
  token := token
  arkTx := some (B.psbtToBase64 mergedArkTx)
  unsignedCheckpoints := unsignedCheckpoints.map B.psbtToBase64
  partySignedCheckpoints := partySignedCheckpoints.map fun cps => cps.map B.psbtToBase64
  serverSignedArkTx := none

/-- The record once the server's signatures are in hand. -/
def upgradedRecord (pending : PendingSpend) (serverSignedArkTx : Psbt)
    (finalCheckpoints : List Psbt) : PendingSpend :=
  { pending with
    stage := .submitted
    signedCheckpoints := finalCheckpoints.map B.psbtToBase64
    serverSignedArkTx := some (B.psbtToBase64 serverSignedArkTx)
    arkTx := none
    unsignedCheckpoints := []
    partySignedCheckpoints := [] }

/-- The record after finalization. -/
def finalizedRecord (pending : PendingSpend) : PendingSpend := { pending with stage := .finalized }

/-- The txid of a checkpoint and `cp.inputs[0].witness_script`. There is no entry when the
index panics. -/
def witnessScriptEntry (cp : Psbt) : Option (Txid × Option ScriptBuf) :=
  cp.inputs.head?.map fun input => (B.computeTxid cp.unsignedTx, input.witnessScript)

/-- The map from checkpoint txid to witness script, and `none` for a panic. -/
def witnessScripts (checkpointTxs : List Psbt) : Option (BTreeMap Txid (Option ScriptBuf)) := do
  let entries ← checkpointTxs.mapM (witnessScriptEntry B)
  return Std.ExtTreeMap.ofList entries

/-- `cp.inputs[0].witness_script = ws`. -/
def setFirstWitnessScript (ws : Option ScriptBuf) (cp : Psbt) : Option Psbt :=
  match cp.inputs with
  | [] => none
  | input :: rest => some { cp with inputs := { input with witnessScript := ws } :: rest }

/-- Put the witness script of a submitted checkpoint back into the returned one. -/
def restoreWitnessScript (scripts : BTreeMap Txid (Option ScriptBuf)) (cp : Psbt) :
    Option Psbt :=
  match scripts[B.computeTxid cp.unsignedTx]? with
  | some ws => setFirstWitnessScript ws cp
  | none => some cp

/-- Put the witness scripts of the submitted checkpoints back into the returned ones. There
is no result when an index panics. -/
def restoreWitnessScripts (checkpointTxs signedCheckpointTxs : List Psbt) :
    Option (List Psbt) := do
  let scripts ← witnessScripts B checkpointTxs
  signedCheckpointTxs.mapM (restoreWitnessScript B scripts)

/-- One party's copy of the checkpoint at a position, merged into it. -/
def mergePartyCheckpoint (serverCheckpoints : List Psbt) (i : Fin serverCheckpoints.length)
    (merged : Psbt) (partyCps : List Psbt) : Except Error Psbt :=
  let found := partyCps.length
  let expected := serverCheckpoints.length
  if same : found = expected then
    Spend.mergeArkTxSigs merged (partyCps.get (i.cast same.symm))
  else
    .error (.msg s!"party has {found} checkpoints, expected {expected}")

/-- Each returned checkpoint with the signatures of all parties. -/
def mergeAllCheckpointSigs (serverCheckpoints : List Psbt)
    (partySignedCheckpoints : List (List Psbt)) : Except Error (List Psbt) :=
  (List.finRange serverCheckpoints.length).mapM fun i =>
    partySignedCheckpoints.foldlM (mergePartyCheckpoint serverCheckpoints i)
      (serverCheckpoints.get i)

/-- The error proves that the server rejected the request without acting on it. -/
def isDefinitiveRejection (err : Error) : Bool :=
  err.status?.any fun status =>
    (match status.code with
      | .invalidArgument | .failedPrecondition | .permissionDenied | .unauthenticated => true
      | _ => false) &&
    !strContains status.message "duplicated offchain tx"

/-- The list is not empty, and each checkpoint is spent by an input of the transaction. -/
def checkpointsSpentBy (tx : Transaction) (checkpoints : List Psbt) : Bool :=
  !checkpoints.isEmpty && checkpoints.all fun cp =>
    tx.input.any fun i => i.previousOutput.txid == B.computeTxid cp.unsignedTx

/-- The co-signed ark transaction on record. -/
def decodeEvidence (pending : PendingSpend) (arkTxid : Txid) : Except Error Psbt :=
  let id := pending.id
  let txid := B.txidToString arkTxid
  withContext "decoding persisted co-signed ark tx" do
    let text ← orError (s!"pending spend {id} (ark txid {txid}) at submitted stage has no " ++
      "verified server co-signature on record; refusing to finalize") pending.serverSignedArkTx
    B.psbtFromBase64 text

/-- The ark transaction on record. -/
def decodeArkTx (pending : PendingSpend) : Except Error Psbt :=
  withContext "decoding persisted ark tx" do
    let text ← orError "pending spend at submitting stage has no ark tx" pending.arkTx
    B.psbtFromBase64 text

/-- A list of checkpoints on record. -/
def decodeCheckpoints (text : String) (checkpoints : List String) : Except Error (List Psbt) :=
  withContext text (checkpoints.mapM B.psbtFromBase64)

/-- The parties' checkpoints on record. -/
def decodePartyCheckpoints (checkpoints : List (List String)) :
    Except Error (List (List Psbt)) :=
  withContext "decoding persisted party checkpoints"
    (checkpoints.mapM fun cps => cps.mapM B.psbtFromBase64)

/-! ## The calls -/

/-- `verify_server_ark_tx_sig`, with a remark when it returns `Ok`. -/
def verified (text : String) (own serverSigned : Psbt) : Action Psbt := do
  let canonical ← check (withContext text (Spend.verifyServerArkTxSig B own serverSigned))
  -- `verify_server_ark_tx_sig` looks at input 0 and at no other
  ExceptT.lift (Program.remark (I := interface) (.accepted 0 own serverSigned canonical))
  return canonical

/-- Submit, verify the server's co-signature, and restore the witness scripts. -/
def submitInternal (arkTx : Psbt) (checkpointTxs : List Psbt) :
    Action (Txid × Psbt × List Psbt) := do
  let arkTxid := B.computeTxid arkTx.unsignedTx
  let res ← inContext "submitting offchain transaction" (submit arkTx checkpointTxs)
  let cosignedArkTx ← verified B "verifying server co-signature on ark transaction"
    arkTx res.signedArkTx
  match restoreWitnessScripts B checkpointTxs res.signedCheckpointTxs with
  | some signedCheckpoints => return (arkTxid, cosignedArkTx, signedCheckpoints)
  | none => Fallible.abort

/-- Finalize, then mark the record finalized if it is still this attempt's. -/
def finalizeAndRecord (pending : PendingSpend) (arkTxid : Txid) (finalCheckpoints : List Psbt) :
    Action Txid := do
  inContext "finalizing offchain transaction" (finalize arkTxid finalCheckpoints)
  let _written ← inContext "recording finalized spend" (saveIf store (finalizedRecord pending))
  return arkTxid

/-- The submit failed: clear the record of a first attempt that was definitively rejected,
keep it otherwise. -/
def submitFailed (pending : PendingSpend) (firstAttempt : Bool) (e : Error) : Action Txid := do
  let txid := pending.arkTxid
  let id := pending.id
  if firstAttempt && isDefinitiveRejection e then
    let cleared ← inContext "clearing rejected spend record"
      (removeIf store pending.id pending.token)
    let fate := if cleared then "cleared" else "not ours; left untouched"
    throw (e.context
      s!"offchain transaction {txid} rejected by server (pending record {id} {fate})")
  else
    throw (e.context (s!"submitting offchain transaction {txid} (pending record {id} retained; "
      ++ "retry with the same id resubmits it)"))

/-- Upgrade the record and finalize. When the upgrade could not be saved and finalizing
failed too, the save is tried once more. -/
def upgradeAndFinalize (pending : PendingSpend) (arkTxid : Txid) (finalCheckpoints : List Psbt) :
    Action Txid := do
  let saved ← (save pending).attempt
  let result ← (finalizeAndRecord store pending arkTxid finalCheckpoints).attempt
  match result, saved with
  | .error _, .error _ => do
      let _ ← (save pending).attempt
      check result
  | _, _ => check result

/-- Submit, record the server's signatures, finalize, mark the record. -/
def submitAndFinalize (pending : PendingSpend) (mergedArkTx : Psbt)
    (unsignedCheckpoints : List Psbt) (partySignedCheckpoints : List (List Psbt))
    (firstAttempt : Bool) : Action Txid := do
  match ← (submitInternal B mergedArkTx unsignedCheckpoints).attempt with
  | .error e => submitFailed store pending firstAttempt e
  | .ok (arkTxid, serverSignedArkTx, serverCheckpoints) =>
      let submitted := B.txidToString arkTxid
      let recorded := pending.arkTxid
      check (ensure (submitted == recorded)
        s!"submitted ark txid {submitted} differs from recorded {recorded}")
      let finalCheckpoints ←
        check (mergeAllCheckpointSigs serverCheckpoints partySignedCheckpoints)
      upgradeAndFinalize store (upgradedRecord B pending serverSignedArkTx finalCheckpoints)
        arkTxid finalCheckpoints

/-- Finalize what is on record at stage `submitted`. -/
def resumeSubmitted (pending : PendingSpend) (arkTxid : Txid) : Action Txid := do
  let txid := B.txidToString arkTxid
  let evidence ← check (decodeEvidence B pending arkTxid)
  check (ensure (B.computeTxid evidence.unsignedTx == arkTxid)
    s!"persisted co-signed ark tx does not match recorded ark txid {txid}")
  let _ ← verified B "re-verifying persisted server co-signature before finalize"
    evidence evidence
  let finalCheckpoints ← check (decodeCheckpoints B "decoding persisted checkpoint PSBTs"
    pending.signedCheckpoints)
  check (ensure (checkpointsSpentBy B evidence.unsignedTx finalCheckpoints)
    s!"persisted checkpoints are not inputs of the recorded ark tx {txid}")
  finalizeAndRecord store pending arkTxid finalCheckpoints

/-- Submit again what is on record at stage `submitting`. -/
def resumeSubmitting (pending : PendingSpend) : Action Txid := do
  let arkTx ← check (decodeArkTx B pending)
  let unsignedCheckpoints ← check (decodeCheckpoints B
    "decoding persisted unsigned checkpoints" pending.unsignedCheckpoints)
  let partyCps ← check (decodePartyCheckpoints B pending.partySignedCheckpoints)
  submitAndFinalize B store pending arkTx unsignedCheckpoints partyCps false

/-- Drive a recorded spend from its persisted stage to completion. -/
def resumeRecorded (pending : PendingSpend) : Action Txid := do
  let arkTxid ← check (withContext "invalid ark_txid in pending spend"
    (ofDisplay (B.parseTxid pending.arkTxid)))
  match pending.stage with
  | .finalized => return arkTxid
  | .submitted => resumeSubmitted B store pending arkTxid
  | .submitting => resumeSubmitting B store pending

/-- Spend an escrow VTXO offchain, resuming what is recorded under the id. -/
def spendEscrowOffchain (id : String) (mergedArkTx : Psbt) (unsignedCheckpoints : List Psbt)
    (partySignedCheckpoints : List (List Psbt)) : Action Txid := do
  match ← inContext "loading pending spend" (load id) with
  | some pending =>
      let supplied := B.txidToString (B.computeTxid mergedArkTx.unsignedTx)
      let bound := pending.arkTxid
      check (ensure (supplied == bound)
        (s!"spend id {id} is already bound to ark txid {bound}; refusing a different " ++
          s!"transaction ({supplied}) under the same id"))
      resumeRecorded B store pending
  | none =>
      check (validateCheckpoints unsignedCheckpoints partySignedCheckpoints)
      let token ← newToken
      let pending := freshRecord B id mergedArkTx unsignedCheckpoints partySignedCheckpoints token
      inContext "persisting pending spend before submit" (save pending)
      submitAndFinalize B store pending mergedArkTx unsignedCheckpoints partySignedCheckpoints
        true

/-- Resume the recorded spend of an id. -/
def resumePendingSpend (id : String) : Action (Option Txid) := do
  match ← inContext "loading pending spend" (load id) with
  | some pending => some <$> resumeRecorded B store pending
  | none => return none

/-- The calls an application makes. -/
inductive Call where
  | spend (id : String) (mergedArkTx : Psbt) (unsignedCheckpoints : List Psbt)
      (partySignedCheckpoints : List (List Psbt))
  | resume (id : String)

/-- The id of a call. -/
def Call.id : Call → String
  | .spend id _ _ _ => id
  | .resume id => id

/-- The PSBTs that a call is given are well-formed. -/
def Call.WellFormed : Call → Prop
  | .spend _ mergedArkTx unsignedCheckpoints partySignedCheckpoints =>
      mergedArkTx.WellFormed ∧ (∀ cp ∈ unsignedCheckpoints, cp.WellFormed) ∧
        ∀ copies ∈ partySignedCheckpoints, ∀ cp ∈ copies, cp.WellFormed
  | .resume _ => True

/-- The program of a call. -/
def Call.program : Call → Program interface (Except Error (Option Txid))
  | .spend id mergedArkTx unsignedCheckpoints partySignedCheckpoints =>
      (some <$> spendEscrowOffchain B store id mergedArkTx unsignedCheckpoints
        partySignedCheckpoints).run
  | .resume id => (resumePendingSpend B store id).run

end Client
end ArkadeEscrow
