import ArkadeEscrow.Client.Attempt
import ArkadeEscrow.Reference

/-!
# No finalize without the server's commitment

A session is any sequence of calls, each run up to some point: to its end, or to where a
crash broke it off. Store and server are not constrained at all. In every session a
`FinalizeTx` rests on a verified co-signature that was accepted earlier in the same call
(`finalize_rests_on_commitment`).
-/

set_option autoImplicit false

namespace ArkadeEscrow
namespace Client

open Interaction

/-- On the input at an index, `psbt` carries a valid `Default` sighash signature by the third
`CHECKSIG` key of the leaf that `own` records there. -/
def ServerSigns (B : BitcoinLib) (own psbt : Psbt) (index : Nat) : Prop :=
  ∃ input controlBlock leafScript leafVersion partyA partyB serverKey msg sig,
    own.inputs[index]? = some input ∧
    input.tapScripts.firstKeyValue = some (controlBlock, leafScript, leafVersion) ∧
    B.extractChecksigPubkeys leafScript = [partyA, partyB, serverKey] ∧
    Spend.arkTxSighash B own index = .ok (msg, B.leafHash leafScript leafVersion) ∧
    psbt.sigAt index (serverKey, B.leafHash leafScript leafVersion) = some sig ∧
    sig.sighashType = .default ∧
    B.verifySchnorr sig.signature msg serverKey = .ok ()

/-- `verify_server_ark_tx_sig` has accepted the server's copy of an ark transaction. -/
structure Committed (B : BitcoinLib) (h : History) (own serverSigned : Psbt) (arkTxid : Txid) :
    Prop where
  accepted : ∃ canonical, .noted (.accepted 0 own serverSigned canonical) ∈ h ∧
    Spend.verifyServerArkTxSig B own serverSigned = .ok canonical
  arkTxid : B.computeTxid serverSigned.unsignedTx = arkTxid
  signed : ServerSigns B own serverSigned 0

/-- A finalize rests on a commitment to the transaction it is about. -/
def FinalizeCommitted (B : BitcoinLib) (h : History) : Ask → Prop
  | .finalize arkTxid _ => ∃ own serverSigned, Committed B h own serverSigned arkTxid
  | _ => True

variable {B : BitcoinLib} {store : SpendStore}

theorem escrowLeafServerKey_eq_ok {psbt : Psbt} {index : Nat} {serverKey : XOnlyPublicKey}
    (found : Spend.escrowLeafServerKey B psbt index = .ok serverKey) :
    ∃ input controlBlock leafScript leafVersion partyA partyB,
      psbt.inputs[index]? = some input ∧
      input.tapScripts.firstKeyValue = some (controlBlock, leafScript, leafVersion) ∧
      B.extractChecksigPubkeys leafScript = [partyA, partyB, serverKey] := by
  obtain ⟨input, present, found⟩ := Results.bind_eq_ok_iff.mp found
  obtain ⟨⟨controlBlock, leafScript, leafVersion⟩, leaf, found⟩ :=
    Results.bind_eq_ok_iff.mp found
  simp only [Spend.inputAt, Spend.firstTapScript, orError_eq_ok_iff] at present leaf
  dsimp only at found
  split at found
  · next partyA partyB server keys =>
      obtain rfl := Except.ok.inj found
      exact ⟨input, controlBlock, leafScript, leafVersion, partyA, partyB, present, leaf, keys⟩
  · cases found

theorem arkTxSighash_leafHash {psbt : Psbt} {index : Nat} {msg : Message}
    {leafHash : TapLeafHash} (computed : Spend.arkTxSighash B psbt index = .ok (msg, leafHash))
    {input : PsbtInput} {controlBlock : ControlBlock} {leafScript : ScriptBuf}
    {leafVersion : LeafVersion} (present : psbt.inputs[index]? = some input)
    (leaf : input.tapScripts.firstKeyValue = some (controlBlock, leafScript, leafVersion)) :
    leafHash = B.leafHash leafScript leafVersion := by
  obtain ⟨utxos, _, computed⟩ := Results.bind_eq_ok_iff.mp computed
  obtain ⟨input', present', computed⟩ := Results.bind_eq_ok_iff.mp computed
  obtain ⟨entry, leaf', computed⟩ := Results.bind_eq_ok_iff.mp computed
  obtain ⟨sighash, _, computed⟩ := Results.bind_eq_ok_iff.mp computed
  simp only [Spend.inputAt, Spend.firstTapScript, orError_eq_ok_iff] at present' leaf'
  obtain rfl : input = input' := by simpa [present] using present'
  obtain rfl : (controlBlock, leafScript, leafVersion) = entry := by simpa [leaf] using leaf'
  exact (congrArg Prod.snd (Except.ok.inj computed)).symm

/-- What `verify_server_ark_tx_sig` accepts carries the server's signature on input 0. -/
theorem serverSigns_of_verified {own serverSigned canonical : Psbt}
    (accepted : Spend.verifyServerArkTxSig B own serverSigned = .ok canonical) :
    ServerSigns B own serverSigned 0 := by
  obtain ⟨serverKey, leafHash, msg, sig, checked, _⟩ :=
    Spend.verifyServerArkTxSig_eq_ok_iff.mp accepted
  obtain ⟨input, controlBlock, leafScript, leafVersion, partyA, partyB, present, leaf, keys⟩ :=
    escrowLeafServerKey_eq_ok checked.leafKey
  obtain rfl := arkTxSighash_leafHash checked.sighash present leaf
  exact ⟨input, controlBlock, leafScript, leafVersion, partyA, partyB, serverKey, msg, sig,
    present, leaf, keys, checked.sighash, checked.recorded, checked.default, checked.valid⟩

theorem committed_of_accepted {h : History} {own serverSigned canonical : Psbt}
    (noted : .noted (.accepted 0 own serverSigned canonical) ∈ h)
    (accepted : Spend.verifyServerArkTxSig B own serverSigned = .ok canonical) :
    Committed B h own serverSigned (B.computeTxid own.unsignedTx) := by
  obtain ⟨_, _, _, _, checked, _⟩ := Spend.verifyServerArkTxSig_eq_ok_iff.mp accepted
  exact
    { accepted := ⟨canonical, noted, accepted⟩
      arkTxid := by rw [checked.unsignedTx]
      signed := serverSigns_of_verified accepted }

theorem Finalizes.committed {call : Call} {h : History} {pending : PendingSpend}
    {arkTxid : Txid} {finalCheckpoints : List Psbt}
    (finalizes : Finalizes B call h pending arkTxid finalCheckpoints) :
    ∃ own serverSigned, Committed B h own serverSigned arkTxid := by
  cases finalizes with
  | accepted accepts =>
      exact ⟨_, _, committed_of_accepted accepts.noted accepts.passes.verified⟩
  | resumed resumes =>
      obtain rfl := resumes.finalizable.sameTxid
      exact ⟨_, _, committed_of_accepted resumes.noted resumes.finalizable.verified⟩

/-- **No finalize without the server's commitment.** In every session, whenever a call
sends `FinalizeTx`, it has accepted before, in the same call, a copy of that transaction
which carries the server's signature on input 0. -/
theorem finalize_rests_on_commitment (session : Session B store) :
    ∀ run ∈ session, Guarded (FinalizeCommitted B) run.events := by
  intro run _ before request after split
  have justified := call_justified run.emits before request after split
  cases request with
  | finalize arkTxid finalCheckpoints =>
      obtain ⟨pending, finalizes⟩ := justified
      exact finalizes.committed
  | _ => trivial

/-- A session with one call, which gets to its finalize. -/
theorem finalize_rests_on_commitment_sample :
    ∃ (session : Session BitcoinLib.reference ⟨true, true⟩)
      (run : CallRun BitcoinLib.reference ⟨true, true⟩) (arkTxid : Txid) (cps : List Psbt),
      run ∈ session ∧ .sent (.finalize arkTxid cps) ∈ run.events ∧
        Guarded (FinalizeCommitted BitcoinLib.reference) run.events := by
  let cp := Sample.checkpoint 1 ∅
  have valid : validateCheckpoints [cp] [[cp]] = .ok () :=
    validateCheckpoints_self (List.cons_ne_nil cp [])
  obtain ⟨finalCheckpoints, merged⟩ := exists_merges_self (B := BitcoinLib.reference)
    [cp] (by simp [cp, Sample.checkpoint]) (Sample.cosigned [cp])
  have releases := releases_first "escrow" valid (Sample.verified_cosigned cp []) merged
  obtain ⟨before, emits, _⟩ := releases.emits ⟨true, true⟩
  let run : CallRun BitcoinLib.reference ⟨true, true⟩ := ⟨_, _, emits⟩
  refine ⟨[run], run, _, finalCheckpoints, List.mem_singleton_self run,
    List.mem_append_right _ List.mem_cons_self, ?_⟩
  exact finalize_rests_on_commitment [run] run (List.mem_singleton_self run)

end Client
end ArkadeEscrow
