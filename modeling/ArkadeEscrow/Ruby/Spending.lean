import ArkadeEscrow.Client.Cosigned
import ArkadeEscrow.Ruby.Refreshing

/-!
# Spending through texts

A cooperative spend from end to end, as an application makes it: the parties exchange copies of
the ark transaction, each of them signs the checkpoints, and one of them hands the texts to the
client. With a server that signs what is submitted, and nothing that fails, the spend finishes
(`cooperative_spend_finishes`). The checkpoint signatures leave the process in the second message
only, complete, and the record keeps a transaction that spends the escrow.
-/

set_option autoImplicit false

namespace ArkadeEscrow
namespace Ruby

open Batch Interaction Client

variable (B : BitcoinLib) (S : SigningLib) (store : SpendStore)

/-! ## The calls -/

/-- The texts are parsed before anything is sent. -/
def spendEscrowOffchain (id mergedArkTxB64 : String) (unsignedCheckpointTxsB64 : List String)
    (partySignedCheckpointsB64 : List (List String)) : Client.Action String := do
  let mergedArkTx ← Client.check (psbtFromBase64 B mergedArkTxB64)
  let unsignedCheckpoints ← Client.check (psbtsFromBase64 B unsignedCheckpointTxsB64)
  let partyCheckpoints ← Client.check (partySignedCheckpointsB64.mapM (psbtsFromBase64 B))
  let txid ← Client.spendEscrowOffchain B store id mergedArkTx unsignedCheckpoints partyCheckpoints
  return B.txidToString txid

def resumePendingSpend (id : String) : Client.Action (Option String) := do
  let txid ← Client.resumePendingSpend B store id
  return txid.map B.txidToString

/-- A party signs every checkpoint. -/
def signCheckpoints (checkpoints : List String) (secretKeyHex : String) : Option (List String) :=
  checkpoints.mapM fun psbtB64 => returned (rbSignCheckpoint B S psbtB64 secretKeyHex)

variable {B S store} {cps : List Psbt} {copies : List (List Psbt)} {arkTx : Psbt} {id : String}

/-- A call with the texts of PSBTs is the call with the PSBTs. -/
theorem spendEscrowOffchain_psbtToBase64 (trips : B.PsbtRoundTrips)
    (wellFormed : Call.WellFormed (.spend id arkTx cps copies)) :
    spendEscrowOffchain B store id (B.psbtToBase64 arkTx) (cps.map B.psbtToBase64)
        (copies.map fun cps => cps.map B.psbtToBase64) =
      B.txidToString <$> Client.spendEscrowOffchain B store id arkTx cps copies := by
  obtain ⟨transaction, checkpoints, copied⟩ := wellFormed
  have parties : (copies.map fun cps => cps.map B.psbtToBase64).mapM (psbtsFromBase64 B) =
      .ok copies := by
    rw [Results.mapM_eq_ok_iff, List.forall₂_map_left_iff, List.forall₂_same]
    exact fun cps member => psbtsFromBase64_map trips (copied cps member)
  rw [spendEscrowOffchain, psbtFromBase64_psbtToBase64 trips transaction,
    psbtsFromBase64_map trips checkpoints, parties]
  exact (map_eq_pure_bind B.txidToString
    (Client.spendEscrowOffchain B store id arkTx cps copies)).symm

/-- What a call of the client returns, the call with texts returns as a text. -/
theorem runIn_spendEscrowOffchain (trips : B.PsbtRoundTrips)
    (wellFormed : Call.WellFormed (.spend id arkTx cps copies))
    {E : Environment Client.interface Shelf} {s s' : Shelf} {events : History} {txid : Txid}
    (run : ((Call.spend id arkTx cps copies).program B store).runIn E s =
      ⟨events, some (.ok (some txid)), s'⟩) :
    (spendEscrowOffchain B store id (B.psbtToBase64 arkTx) (cps.map B.psbtToBase64)
      (copies.map fun cps => cps.map B.psbtToBase64)).run.runIn E s =
        ⟨events, some (.ok (B.txidToString txid)), s'⟩ := by
  rw [Call.program, ExceptT.run_map, Program.runIn_map] at run
  rw [spendEscrowOffchain_psbtToBase64 trips wellFormed, ExceptT.run_map, Program.runIn_map]
  cases whole : (Client.spendEscrowOffchain B store id arkTx cps copies).run.runIn E s with
  | mk events₁ result s₁ =>
      rw [whole] at run
      simp only [WholeRun.mk.injEq, Option.map_eq_some_iff] at run
      obtain ⟨rfl, ⟨r, rfl, mapped⟩, rfl⟩ := run
      cases r with
      | error e => cases mapped
      | ok txid' =>
          cases mapped
          rfl

theorem runIn_resumePendingSpend {E : Environment Client.interface Shelf} {s s' : Shelf}
    {events : History} {found : Option Txid}
    (run : ((Call.resume id).program B store).runIn E s = ⟨events, some (.ok found), s'⟩) :
    (resumePendingSpend B store id).run.runIn E s =
      ⟨events, some (.ok (found.map B.txidToString)), s'⟩ := by
  have mapped : resumePendingSpend B store id =
      Option.map B.txidToString <$> Client.resumePendingSpend B store id :=
    (map_eq_pure_bind ..).symm
  rw [mapped, ExceptT.run_map, Program.runIn_map]
  rw [Call.program] at run
  rw [run]
  rfl

/-! ## The checkpoints of the parties -/

variable {message : Psbt → Message × TapLeafHash} {signers : Set Keypair}
variable {secretKeyHex : String} {keypair : Keypair}

theorem signCheckpoints_psbtToBase64 (trips : B.PsbtRoundTrips)
    (parsed : keypairOf S secretKeyHex = some keypair)
    (awaits : ∀ cp ∈ cps, Awaits S message signers cp)
    (wellFormed : ∀ cp ∈ cps, cp.WellFormed) :
    signCheckpoints B S (cps.map B.psbtToBase64) secretKeyHex =
      some ((cps.map (copyBy S message keypair)).map B.psbtToBase64) := by
  rw [signCheckpoints, Results.mapM_eq_some_iff, List.map_map, List.forall₂_map_left_iff,
    List.forall₂_map_right_iff, List.forall₂_same]
  intro cp member
  rw [rbSignCheckpoint, returned_signText trips parsed _ (wellFormed cp member),
    (awaits cp member).sign keypair]
  rfl

/-- The copies that are signed are as well-formed as the checkpoints. -/
theorem wellFormed_copyBy (transaction : arkTx.WellFormed)
    (wellFormed : ∀ cp ∈ cps, cp.WellFormed) {parties : List Keypair} :
    Call.WellFormed (.spend id arkTx cps
      (parties.map fun keypair => cps.map (copyBy S message keypair))) := by
  refine ⟨transaction, wellFormed, fun copies listed cp member => ?_⟩
  obtain ⟨keypair, _, rfl⟩ := List.mem_map.mp listed
  obtain ⟨cp, here, rfl⟩ := List.mem_map.mp member
  exact (sameShape_copyBy keypair cp).wellFormed (wellFormed cp here)

/-- Every party signs every checkpoint. -/
theorem exists_signCheckpoints (trips : B.PsbtRoundTrips)
    (awaits : ∀ cp ∈ cps, Awaits S message signers cp)
    (wellFormed : ∀ cp ∈ cps, cp.WellFormed) {secrets : List String}
    (secret : ∀ secretKeyHex ∈ secrets, SecretOf S signers secretKeyHex) :
    ∃ parties : List Keypair, {keypair | keypair ∈ parties} = keypairsOf S {s | s ∈ secrets} ∧
      secrets.mapM (signCheckpoints B S (cps.map B.psbtToBase64)) =
        some ((parties.map fun keypair => cps.map (copyBy S message keypair)).map
          fun cps => cps.map B.psbtToBase64) := by
  obtain ⟨parties, listed⟩ : ∃ parties, secrets.mapM (keypairOf S) = some parties :=
    Results.mapM_isSome_iff.mpr fun secretKeyHex member =>
      (secret secretKeyHex member).imp fun keypair found => found.1
  have listed := Results.mapM_eq_some_iff.mp listed
  refine ⟨parties, ?_, ?_⟩
  · ext keypair
    constructor
    · intro member
      obtain ⟨secretKeyHex, here, parsed⟩ := Results.exists_of_mem_left listed.flip member
      exact ⟨secretKeyHex, here, parsed⟩
    · rintro ⟨secretKeyHex, here, parsed⟩
      obtain ⟨keypair', member, parsed'⟩ := Results.exists_of_mem_left listed here
      cases parsed.symm.trans parsed'
      exact member
  · rw [Results.mapM_eq_some_iff, List.map_map, List.forall₂_map_right_iff]
    exact listed.imp fun secretKeyHex keypair parsed =>
      signCheckpoints_psbtToBase64 trips parsed awaits wellFormed

/-! ## The spend -/

variable {base own : Psbt} {msg : Message} {leafHash : TapLeafHash} {keypairs : Set Keypair}
variable {T : TaprootLib} {hashing : Merkle.Hashing ScriptBuf (BitVec 256)} {tweak : Tweak}
variable {contract : EscrowContract B T} {key : XOnlyPublicKey} {block : ControlBlock}
variable {set : SignerSet} {utxos : List TxOut}

/-- The record of a finished spend: it keeps a transaction that spends the escrow. -/
structure KeepsEvidence (contract : EscrowContract B T) (set : SignerSet) (key : XOnlyPublicKey)
    (block : ControlBlock) (msg : Message) (leafHash : TapLeafHash) (record : PendingSpend) :
    Prop where
  stage : record.stage = .finalized
  evidence : ∃ canonical, record.serverSignedArkTx = some (B.psbtToBase64 canonical) ∧
    UnlocksWith contract set key block msg leafHash canonical

/-- A store and a server that do not fail. Submits get this reply, whatever is submitted. -/
def undisturbed (id : String) (bytes : Vector UInt8 16) (reply : SubmitReply) :
    Environment Client.interface Shelf :=
  let S : Submission := ⟨id, reply.signedArkTx, [], [], bytes, .finished (.ok reply)⟩
  S.reliable (.finished (.ok ()))

/-- **A cooperative spend finishes.** Both parties of a collaborative leaf have signed a copy of the
ark transaction, and parties sign the checkpoints. If the server signs what is submitted and
nothing fails, the call returns the txid. It sends the checkpoints as they were built, and once the
ark transaction is co-signed it sends them with all signatures. The record keeps a transaction that
spends the escrow, and a resumption returns the same txid and sends nothing. -/
theorem cooperative_spend_finishes (builds : BuildsScripts B)
    (trees : BuildsTrees B T hashing tweak)
    (trips : B.PsbtRoundTrips) (txids : B.TxidRoundTrips) (documented : S.Documented B)
    (wellFormed : base.WellFormed) (unsigned : Unsigned B base msg leafHash signers)
    (pays : contract.scriptPubkey = 0x51 :: 0x20 :: key.serialize)
    (found : contract.controlBlock (set.script B contract.options) = .ok block)
    (leaf : Spend.EscrowLeaf B base block (set.script B contract.options) leafVersionTapScript
      contract.options.server utxos)
    (signed : SignedBy S base msg leafHash keypairs own) {keypairA keypairB server : Keypair}
    (memberA : keypairA ∈ keypairs) (memberB : keypairB ∈ keypairs)
    (partyA : keypairA.publicKey.xOnly = (set.parties contract.options).1)
    (partyB : keypairB.publicKey.xOnly = (set.parties contract.options).2)
    (named : server.publicKey.xOnly = contract.options.server) (signer : server ∈ signers)
    (submitted : cps ≠ []) (checkpoints : ∀ cp ∈ cps, cp.WellFormed)
    (awaits : ∀ cp ∈ cps, Awaits S message signers cp)
    (distinct : (cps.map fun cp => B.computeTxid cp.unsignedTx).Nodup) {secrets : List String}
    (secret : ∀ secretKeyHex ∈ secrets, SecretOf S signers secretKeyHex) (store : SpendStore)
    (id : String) (bytes : Vector UInt8 16) :
    ∃ copies, secrets.mapM (signCheckpoints B S (cps.map B.psbtToBase64)) = some copies ∧
      ∀ reply, CosignedBy S server own cps reply →
        ∃ events again record finalCheckpoints,
          (spendEscrowOffchain B store id (B.psbtToBase64 own) (cps.map B.psbtToBase64)
              copies).run.runIn (undisturbed id bytes reply) none =
            ⟨events, some (.ok (B.txidToString (B.computeTxid base.unsignedTx))), some record⟩ ∧
          messages events = [.submit own cps,
            .finalize (B.computeTxid base.unsignedTx) finalCheckpoints] ∧
          List.Forall₂ (fun cp final => SignedBy S cp (message cp).1 (message cp).2
            (insert server (keypairsOf S {s | s ∈ secrets})) final) cps finalCheckpoints ∧
          KeepsEvidence contract set key block msg leafHash record ∧
          (resumePendingSpend B store id).run.runIn (undisturbed id bytes reply) (some record) =
            ⟨again, some (.ok (some (B.txidToString (B.computeTxid base.unsignedTx)))),
              some record⟩ ∧
          messages again = [] := by
  obtain ⟨parties, members, copied⟩ := exists_signCheckpoints trips awaits checkpoints secret
  have party (keypair : Keypair) (member : keypair ∈ parties) : keypair ∈ signers := by
    obtain ⟨secretKeyHex, listed, parsed⟩ : keypair ∈ keypairsOf S {s | s ∈ secrets} :=
      members ▸ member
    obtain ⟨keypair', parsed', signer'⟩ := secret secretKeyHex listed
    cases parsed.symm.trans parsed'
    exact signer'
  refine ⟨_, copied, fun reply cosigned => ?_⟩
  -- the checks of the client on the reply
  obtain ⟨serverSigned, canonical, cosigns, verdict⟩ :=
    unsigned.coSigns documented leaf signed.rest named
  cases cosigned.arkTx.symm.trans cosigns
  obtain ⟨finalCheckpoints, merged, complete⟩ :=
    cosigned.exists_merges (B := B) awaits distinct signer party
  rw [members] at complete
  let S' : Submission := ⟨id, own, cps, parties.map fun keypair =>
    cps.map (copyBy S message keypair), bytes, .finished (.ok reply)⟩
  obtain ⟨events, run, sent⟩ := S'.runIn_accepted store (validateCheckpoints_copyBy submitted) rfl
    verdict merged
  have sameTx : own.unsignedTx = base.unsignedTx := Psbt.unsignedTx_of_stripSigs signed.rest
  let record := finalizedRecord (S'.upgraded B canonical finalCheckpoints)
  -- the call finds no record, its resumption the last one
  replace run : ((Call.spend id own cps _).program B store).runIn
      (undisturbed id bytes reply) none = _ := run
  have spent := runIn_spendEscrowOffchain trips
    (wellFormed_copyBy (signed.wellFormed wellFormed) checkpoints) run
  have parsed : B.parseTxid record.arkTxid = .ok (B.computeTxid own.unsignedTx) := txids _
  have resumes : Returns ((Call.resume id).program B store) _ _ :=
    ends_call_found trivial (ends_resumeRecorded_finalized parsed rfl)
  have resumed : ((Call.resume id).program B store).runIn
      (undisturbed id bytes reply) (some record) = _ :=
    resumes.runIn_eq (Submission.follows_load rfl (.nil _))
  have resumedText : (resumePendingSpend B store id).run.runIn (undisturbed id bytes reply)
      (some record) = _ := runIn_resumePendingSpend resumed
  rw [sameTx] at spent sent resumedText
  exact ⟨events, _, record, finalCheckpoints, spent, sent, complete, ⟨rfl, canonical, rfl,
    unsigned.unlocksWith builds trees documented pays found leaf partyA partyB memberA memberB
      signed verdict⟩, resumedText, rfl⟩

/-! ### A sample -/

open ArkadeEscrow.Sample

/-- The sample signing functions sign a checkpoint as they sign an ark transaction. -/
theorem Sample.unsignedCheckpoint {cp : Psbt}
    (unsigned : Unsigned climbing cp msg leafHash signers) :
    UnsignedCheckpoint (signing climbing) cp msg leafHash signers where
  toSignable := unsigned.toSignable
  records := List.length_pos_iff.mp (Spend.length_pos_of_arkTxSighash unsigned.sighash)
  signs {signer sigs} signed := by
    refine Results.bind_eq_ok_iff.mpr ⟨(msg, leafHash), unsigned.sighash, ?_⟩
    exact Results.bind_eq_ok_iff.mpr ⟨sigs, signed, rfl⟩

/-- The server strips the witness script of the checkpoint. -/
theorem Sample.exists_cosignedBy {server : Keypair} {cp : Psbt}
    (unsigned : UnsignedCheckpoint S cp msg leafHash signers) {serverSigned : Psbt}
    (cosigns : Spend.signArkTx S own server = .ok serverSigned) :
    ∃ reply, CosignedBy S server own [cp] reply := by
  let signed := signedCheckpoint S cp msg leafHash server
  obtain ⟨stripped, changed⟩ : ∃ stripped, setFirstWitnessScript none signed = some stripped := by
    have records : signed.inputs ≠ [] := List.ne_nil_of_length_pos (by
      rw [show signed.inputs.length = _ from Psbt.insertSig_inputs_length ..]
      exact List.length_pos_iff.mpr unsigned.records)
    obtain ⟨input, others, inputs⟩ := List.exists_cons_of_ne_nil records
    rw [setFirstWitnessScript, inputs]
    exact ⟨_, rfl⟩
  exact ⟨⟨serverSigned, [stripped]⟩, cosigns,
    .cons ⟨signed, unsigned.sign server, none, changed⟩ .nil⟩

/-- Seller and arbiter spend an escrow. -/
theorem cooperative_spend_finishes_sample :
    ∃ (own : Psbt) (cps : List Psbt) (copies : List (List String)) (reply : SubmitReply)
      (events : History) (txid : String) (record : PendingSpend),
      (spendEscrowOffchain climbing ⟨true, true⟩ "trade" (climbing.psbtToBase64 own)
          (cps.map climbing.psbtToBase64) copies).run.runIn
        (undisturbed "trade" (.replicate 16 0) reply) none =
          ⟨events, some (.ok txid), some record⟩ ∧
      record.stage = .finalized := by
  obtain ⟨contract, key, block, utxos, same, pays, found, signable⟩ := exists_spending
  let cp := spending contract block ⟨0⟩
  obtain ⟨_, msg', leafHash', unsigned'⟩ := signable ⟨0⟩
  obtain ⟨leaf, msg, leafHash, unsigned⟩ := signable (climbing.computeTxid cp.unsignedTx)
  have documented : (signing climbing).Documented climbing := documented_signing rfl
  have checkpoint := Sample.unsignedCheckpoint unsigned'
  have signer (key : XOnlyPublicKey) : party key ∈ Set.range party := ⟨key, rfl⟩
  -- the seller signs, and then the arbiter
  obtain ⟨first, _, signed⟩ := unsigned.sign documented (signedBy_empty _) (Set.empty_subset _)
    (signer options.seller)
  obtain ⟨own, _, signed⟩ := unsigned.sign documented signed
    (Set.insert_subset (signer _) (Set.empty_subset _)) (signer options.arbiter)
  have named : (party options.server).publicKey.xOnly = contract.options.server := by
    rw [same]
    rfl
  obtain ⟨_, _, cosigns, _⟩ := unsigned.coSigns documented leaf signed.rest named
  obtain ⟨reply, cosigned⟩ := Sample.exists_cosignedBy checkpoint cosigns
  have secret : ∀ s ∈ [secretText options.seller, secretText options.arbiter],
      SecretOf (signing climbing) (Set.range party) s := by
    simp only [List.forall_mem_cons]
    exact ⟨⟨_, keypairOf_secretText _ _, signer _⟩, ⟨_, keypairOf_secretText _ _, signer _⟩, nofun⟩
  have checkpoints : ∀ c ∈ [cp], c.WellFormed := by
    simpa [cp] using wellFormed_spending contract block ⟨0⟩
  have awaits : ∀ c ∈ [cp],
      Awaits (signing climbing) (fun _ => (msg', leafHash')) (Set.range party) c := by
    simpa [Awaits, cp] using checkpoint
  have partyA : (party options.seller).publicKey.xOnly =
      (SignerSet.sellerArbiter.parties contract.options).1 := by
    rw [same]
    rfl
  have partyB : (party options.arbiter).publicKey.xOnly =
      (SignerSet.sellerArbiter.parties contract.options).2 := by
    rw [same]
    rfl
  obtain ⟨copies, _, finishes⟩ := cooperative_spend_finishes buildsScripts_climbing
    buildsTrees_combining psbtRoundTrips_climbing BitcoinLib.txidRoundTrips_reference documented
    (wellFormed_spending contract block _) unsigned pays found leaf signed (by simp) (by simp)
    partyA partyB named (signer _) (List.cons_ne_nil cp []) checkpoints awaits
    (List.nodup_singleton _) secret ⟨true, true⟩ "trade" (.replicate 16 0)
  obtain ⟨events, _, record, _, run, _, _, kept, _⟩ := finishes reply cosigned
  exact ⟨own, [cp], copies, reply, events, _, record, run, kept.stage⟩

end Ruby
end ArkadeEscrow
