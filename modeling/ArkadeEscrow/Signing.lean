import ArkadeEscrow.Client.Signatures
import ArkadeEscrow.Interaction.Copies
import ArkadeEscrow.Output
import ArkadeEscrow.Refresh.Program
import ArkadeEscrow.Spendable

/-!
# Signing

A party signs its copy of a PSBT with its keypair. The signatures are those of `ark_core`, whose
signing functions are parameters (`SigningLib`), with a closure that signs one message with one
keypair and no auxiliary randomness. So a party that signs twice signs alike, and copies that
were signed apart can be merged: the copies of an ark transaction accumulate the signatures of
the keypairs that they were signed with (`Unsigned.accumulates`), and so do those of a checkpoint
that are merged one after the other (`Signable.mergeCopies`).
-/

set_option autoImplicit false

namespace ArkadeEscrow

open Batch Refresh Interaction

/-- The signatures that a closure makes of a message, each with its key. -/
abbrev Signer := Message → Except Error (List (SchnorrSignature × XOnlyPublicKey))

/-- The functions of other crates that sign. What is signed is returned. -/
structure SigningLib where
  SecretKey : Type
  /-- `SecretKey::from_slice`. -/
  secretKeyFromSlice : List UInt8 → Except String SecretKey
  /-- `Keypair::from_secret_key`. -/
  fromSecretKey : SecretKey → Keypair
  /-- `Secp256k1::sign_schnorr_no_aux_rand`. -/
  signSchnorrNoAuxRand : Message → Keypair → SchnorrSignature
  /-- `send::sign_ark_transaction`. -/
  signArkTransaction : Signer → Psbt → Nat → Except Error Psbt
  /-- `send::sign_checkpoint_transaction`. -/
  signCheckpointTransaction : Signer → Psbt → Except Error Psbt
  /-- `batch::sign_delegate_psbts`. -/
  signDelegatePsbts : Signer → Psbt → List Psbt → Except String (Psbt × List Psbt)

variable {L : BatchLib} (S : SigningLib)

/-- The closure that signs with a keypair. -/
def signWith (keypair : Keypair) : Signer := fun msg =>
  .ok [(S.signSchnorrNoAuxRand msg keypair, keypair.publicKey.xOnly)]

namespace Spend

def signArkTx (psbt : Psbt) (keypair : Keypair) : Except Error Psbt :=
  withContext "signing ark transaction" (S.signArkTransaction (signWith S keypair) psbt 0)

def signCheckpoint (psbt : Psbt) (keypair : Keypair) : Except Error Psbt :=
  withContext "signing checkpoint transaction"
    (S.signCheckpointTransaction (signWith S keypair) psbt)

end Spend

namespace Refresh

def signDeleteIntentProof (proof : Psbt) (keypair : Keypair) : Except Error Psbt := do
  let (proof, _) ← printed "signing delete intent proof"
    (S.signDelegatePsbts (signWith S keypair) proof [])
  return proof

def signRefresh (refresh : RefreshIntent L) (keypair : Keypair) :
    Except Error (RefreshIntent L) := do
  let (proof, forfeitPsbts) ← printed "signing refresh PSBTs"
    (S.signDelegatePsbts (signWith S keypair) refresh.intent.proof refresh.forfeitPsbts)
  let refresh := { refresh with intent := { refresh.intent with proof }, forfeitPsbts }
  match refresh.deleteIntent with
  | some delete =>
      let proof ← signDeleteIntentProof S delete.proof keypair
      return { refresh with deleteIntent := some { delete with proof } }
  | none => return refresh

end Refresh

/-! ## What signing an ark transaction adds -/

/-- The signatures are recorded at an input, for a leaf. -/
def Psbt.insertSigs (psbt : Psbt) (index : Nat) (leafHash : TapLeafHash)
    (sigs : List (SchnorrSignature × XOnlyPublicKey)) : Psbt :=
  sigs.foldl (fun psbt (sig, key) => psbt.insertSig index (key, leafHash) ⟨sig, .default⟩) psbt

/-- What is documented of the functions that sign. The sighash of an ark transaction is the one
that `ark_tx_sighash` mirrors. -/
structure SigningLib.Documented (B : BitcoinLib) : Prop where
  signArkTransaction : ∀ {signer psbt index msg leafHash sigs},
    Spend.arkTxSighash B psbt index = .ok (msg, leafHash) → signer msg = .ok sigs →
      S.signArkTransaction signer psbt index = .ok (psbt.insertSigs index leafHash sigs)
  signSchnorrNoAuxRand : ∀ msg keypair, B.verifySchnorr (S.signSchnorrNoAuxRand msg keypair) msg
    keypair.publicKey.xOnly = .ok ()

/-- The entry of a keypair. -/
def sigKey (leafHash : TapLeafHash) (keypair : Keypair) : SigKey :=
  (keypair.publicKey.xOnly, leafHash)

/-- A PSBT with the signatures of these keypairs on input 0, and otherwise what it was. -/
structure SignedBy (base : Psbt) (msg : Message) (leafHash : TapLeafHash) (keypairs : Set Keypair)
    (psbt : Psbt) : Prop where
  rest : psbt.stripSigs = base.stripSigs
  signed : ∀ keypair ∈ keypairs, psbt.sigAt 0 (sigKey leafHash keypair) =
    some ⟨S.signSchnorrNoAuxRand msg keypair, .default⟩
  others : ∀ index key, (∀ keypair ∈ keypairs, (index, key) ≠ (0, sigKey leafHash keypair)) →
    psbt.sigAt index key = base.sigAt index key

/-- These keypairs have not signed a PSBT, and each of them has a key of its own. -/
structure Signable (base : Psbt) (leafHash : TapLeafHash) (signers : Set Keypair) : Prop where
  fresh : ∀ keypair ∈ signers, base.sigAt 0 (sigKey leafHash keypair) = none
  own : ∀ keypair ∈ signers, ∀ keypair' ∈ signers,
    keypair.publicKey.xOnly = keypair'.publicKey.xOnly → keypair = keypair'

/-- An ark transaction that these keypairs are going to sign. -/
structure Unsigned (B : BitcoinLib) (base : Psbt) (msg : Message) (leafHash : TapLeafHash)
    (signers : Set Keypair) : Prop extends Signable base leafHash signers where
  sighash : Spend.arkTxSighash B base 0 = .ok (msg, leafHash)

variable {S} {B : BitcoinLib} {base psbt psbt' : Psbt} {msg : Message} {leafHash : TapLeafHash}
variable {signers keypairs keypairs' : Set Keypair} {keypair : Keypair}

theorem Spend.length_pos_of_arkTxSighash
    (sighash : Spend.arkTxSighash B base 0 = .ok (msg, leafHash)) : 0 < base.inputs.length := by
  obtain ⟨_, _, found⟩ := Results.bind_eq_ok_iff.mp sighash
  obtain ⟨input, here, _⟩ := Results.bind_eq_ok_iff.mp found
  have some : base.inputs[0]? = some input := orError_eq_ok_iff.mp here
  exact (List.getElem?_eq_some_iff.mp some).1

theorem Spend.arkTxSighash_congr (rest : psbt.stripSigs = base.stripSigs) (index : Nat) :
    Spend.arkTxSighash B psbt index = Spend.arkTxSighash B base index := by
  rw [← Spend.arkTxSighash_stripSigs, rest, Spend.arkTxSighash_stripSigs]

theorem Psbt.inputs_length_of_stripSigs (rest : psbt.stripSigs = base.stripSigs) :
    psbt.inputs.length = base.inputs.length := by
  have lengths := congrArg (fun psbt => psbt.inputs.length) rest
  simpa [Psbt.stripSigs] using lengths

theorem Psbt.unsignedTx_of_stripSigs (rest : psbt.stripSigs = base.stripSigs) :
    psbt.unsignedTx = base.unsignedTx := by
  simpa using congrArg Psbt.unsignedTx rest

theorem Psbt.wellFormed_of_stripSigs (rest : psbt.stripSigs = base.stripSigs)
    (wellFormed : base.WellFormed) : psbt.WellFormed :=
  have same : psbt.SameShape base :=
    ⟨Psbt.unsignedTx_of_stripSigs rest, Psbt.inputs_length_of_stripSigs rest⟩
  same.wellFormed wellFormed

theorem signedBy_empty (base : Psbt) : SignedBy S base msg leafHash ∅ base :=
  ⟨rfl, nofun, fun _ _ _ => rfl⟩

theorem SignedBy.sameShape (here : SignedBy S base msg leafHash keypairs psbt)
    (there : SignedBy S base msg leafHash keypairs' psbt') : psbt.SameShape psbt' := by
  have rest := here.rest.trans there.rest.symm
  exact ⟨Psbt.unsignedTx_of_stripSigs rest, Psbt.inputs_length_of_stripSigs rest⟩

theorem SignedBy.wellFormed (signed : SignedBy S base msg leafHash keypairs psbt)
    (wellFormed : base.WellFormed) : psbt.WellFormed :=
  Psbt.wellFormed_of_stripSigs signed.rest wellFormed

/-- A signature by one keypair. -/
theorem SigningLib.Documented.signArkTx (documented : S.Documented B)
    (sighash : Spend.arkTxSighash B psbt 0 = .ok (msg, leafHash)) (keypair : Keypair) :
    Spend.signArkTx S psbt keypair = .ok (psbt.insertSig 0 (sigKey leafHash keypair)
      ⟨S.signSchnorrNoAuxRand msg keypair, .default⟩) := by
  have closure : signWith S keypair msg =
      .ok [(S.signSchnorrNoAuxRand msg keypair, keypair.publicKey.xOnly)] := rfl
  rw [Spend.signArkTx, withContext_eq_ok_iff]
  exact documented.signArkTransaction sighash closure

/-- A keypair that has not signed has no entry. -/
theorem Signable.sigAt_eq_none (signable : Signable base leafHash signers)
    (signed : SignedBy S base msg leafHash keypairs psbt) (within : keypairs ⊆ signers)
    (signer : keypair ∈ signers) (other : keypair ∉ keypairs) :
    psbt.sigAt 0 (sigKey leafHash keypair) = none := by
  rw [signed.others, signable.fresh keypair signer]
  intro keypair' member same
  have key : keypair.publicKey.xOnly = keypair'.publicKey.xOnly :=
    congrArg (fun entry => entry.2.1) same
  exact other (signable.own keypair signer keypair' (within member) key ▸ member)

/-- **A signature is added.** -/
theorem Signable.insertSig (signable : Signable base leafHash signers)
    (signed : SignedBy S base msg leafHash keypairs psbt) (bound : 0 < psbt.inputs.length)
    (within : keypairs ⊆ signers) (signer : keypair ∈ signers) :
    SignedBy S base msg leafHash (insert keypair keypairs)
      (psbt.insertSig 0 (sigKey leafHash keypair)
        ⟨S.signSchnorrNoAuxRand msg keypair, .default⟩) := by
  refine ⟨?_, ?_, ?_⟩
  · rw [Psbt.stripSigs_insertSig]
    exact signed.rest
  · intro keypair' member
    rw [Psbt.sigAt_insertSig bound]
    split
    · next same =>
        have key : keypair.publicKey.xOnly = keypair'.publicKey.xOnly := congrArg Prod.fst same.2
        have signer' : keypair' ∈ signers := Set.insert_subset signer within member
        rw [signable.own keypair signer keypair' signer' key]
    · next other =>
        rcases member with rfl | member
        · exact absurd ⟨rfl, rfl⟩ other
        · exact signed.signed keypair' member
  · intro index key apart
    rw [Psbt.sigAt_insertSig bound, if_neg]
    · exact signed.others index key fun keypair' member => apart keypair' (.inr member)
    · rintro ⟨rfl, rfl⟩
      exact apart keypair (.inl rfl) rfl

/-- **Merging takes the union.** -/
theorem Signable.mergeSigs (signable : Signable base leafHash signers)
    (here : SignedBy S base msg leafHash keypairs psbt)
    (there : SignedBy S base msg leafHash keypairs' psbt') (within : keypairs ⊆ signers)
    (within' : keypairs' ⊆ signers) :
    SignedBy S base msg leafHash (keypairs ∪ keypairs') (psbt.mergeSigs psbt') := by
  have shape := here.sameShape there
  refine ⟨?_, ?_, ?_⟩
  · exact (Psbt.stripSigs_mergeSigs shape.2).trans here.rest
  · intro keypair member
    rw [Psbt.sigAt_mergeSigs shape.2]
    by_cases mine : keypair ∈ keypairs
    · rw [here.signed keypair mine, Option.some_or]
    · have theirs : keypair ∈ keypairs' := member.resolve_left mine
      rw [signable.sigAt_eq_none here within (within' theirs) mine, Option.none_or]
      exact there.signed keypair theirs
  · intro index key apart
    rw [Psbt.sigAt_mergeSigs shape.2, here.others index key fun keypair member =>
      apart keypair (.inl member), there.others index key fun keypair member =>
        apart keypair (.inr member), Option.or_self]

/-- Signing an ark transaction adds one signature. -/
theorem Unsigned.sign (unsigned : Unsigned B base msg leafHash signers)
    (documented : S.Documented B) (signed : SignedBy S base msg leafHash keypairs psbt)
    (within : keypairs ⊆ signers) (signer : keypair ∈ signers) :
    ∃ psbt', Spend.signArkTx S psbt keypair = .ok psbt' ∧
      SignedBy S base msg leafHash (insert keypair keypairs) psbt' := by
  have sighash : Spend.arkTxSighash B psbt 0 = .ok (msg, leafHash) :=
    (Spend.arkTxSighash_congr signed.rest 0).trans unsigned.sighash
  exact ⟨_, documented.signArkTx sighash keypair, unsigned.insertSig signed
    (Spend.length_pos_of_arkTxSighash sighash) within signer⟩

theorem SignedBy.unique (here : SignedBy S base msg leafHash keypairs psbt)
    (there : SignedBy S base msg leafHash keypairs psbt') : psbt = psbt' := by
  refine Psbt.ext_sigs (here.rest.trans there.rest.symm) fun index key => ?_
  by_cases entry : ∃ keypair ∈ keypairs, (index, key) = (0, sigKey leafHash keypair)
  · obtain ⟨keypair, member, same⟩ := entry
    cases same
    rw [here.signed keypair member, there.signed keypair member]
  · have apart : ∀ keypair ∈ keypairs, (index, key) ≠ (0, sigKey leafHash keypair) :=
      fun keypair member same => entry ⟨keypair, member, same⟩
    rw [here.others index key apart, there.others index key apart]

variable (S) in
/-- An ark transaction as a document: signing contributes, and signatures are merged. -/
def arkTxDocument : Document Keypair Psbt where
  contribute keypair psbt := (Spend.signArkTx S psbt keypair).toOption
  merge psbt other := (Spend.mergeArkTxSigs psbt other).toOption

/-- **An ark transaction accumulates signatures.** -/
theorem Unsigned.accumulates (unsigned : Unsigned B base msg leafHash signers)
    (documented : S.Documented B) :
    Accumulates (arkTxDocument S) (· ∈ signers) fun keypairs psbt =>
      keypairs ⊆ signers ∧ SignedBy S base msg leafHash keypairs psbt where
  contribute := by
    rintro keypair keypairs psbt signer ⟨within, signed⟩
    obtain ⟨psbt', returned, signed'⟩ := unsigned.sign documented signed within signer
    refine ⟨psbt', ?_, Set.insert_subset signer within, signed'⟩
    simp only [arkTxDocument, returned]
    rfl
  merge := by
    rintro keypairs keypairs' psbt psbt' ⟨within, here⟩ ⟨within', there⟩
    have returned := Spend.mergeArkTxSigs_eq_ok_iff.mpr ⟨here.sameShape there, rfl⟩
    refine ⟨_, ?_, Set.union_subset within within', unsigned.mergeSigs here there within within'⟩
    simp only [arkTxDocument, returned]
    rfl
  unique here there := here.2.unique there.2

/-! ## What signing a checkpoint adds -/

/-- A checkpoint that these keypairs are going to sign: the function that signs it asks for the
signatures of a message, and records them for a leaf. -/
structure UnsignedCheckpoint (S : SigningLib) (cp : Psbt) (msg : Message) (leafHash : TapLeafHash)
    (signers : Set Keypair) : Prop extends Signable cp leafHash signers where
  records : cp.inputs ≠ []
  signs : ∀ {signer sigs}, signer msg = .ok sigs →
    S.signCheckpointTransaction signer cp = .ok (cp.insertSigs 0 leafHash sigs)

variable (S) in
/-- A checkpoint with the signature of one keypair. -/
def signedCheckpoint (cp : Psbt) (msg : Message) (leafHash : TapLeafHash) (keypair : Keypair) :
    Psbt :=
  cp.insertSig 0 (sigKey leafHash keypair) ⟨S.signSchnorrNoAuxRand msg keypair, .default⟩

variable {cp : Psbt}

theorem UnsignedCheckpoint.sign (unsigned : UnsignedCheckpoint S cp msg leafHash signers)
    (keypair : Keypair) :
    Spend.signCheckpoint S cp keypair = .ok (signedCheckpoint S cp msg leafHash keypair) := by
  have closure : signWith S keypair msg =
      .ok [(S.signSchnorrNoAuxRand msg keypair, keypair.publicKey.xOnly)] := rfl
  rw [Spend.signCheckpoint, withContext_eq_ok_iff]
  exact unsigned.signs closure

theorem UnsignedCheckpoint.signedBy (unsigned : UnsignedCheckpoint S cp msg leafHash signers)
    (signer : keypair ∈ signers) :
    SignedBy S cp msg leafHash {keypair} (signedCheckpoint S cp msg leafHash keypair) := by
  rw [← insert_empty_eq keypair]
  exact unsigned.insertSig (signedBy_empty cp) (List.length_pos_iff.mpr unsigned.records)
    (Set.empty_subset _) signer

/-- **Merging the copies of all parties takes the union.** -/
theorem Signable.mergeCopies (signable : Signable base leafHash signers)
    {copy : Keypair → Psbt}
    (copies : ∀ keypair ∈ signers, SignedBy S base msg leafHash {keypair} (copy keypair))
    {parties : List Keypair} (party : ∀ keypair ∈ parties, keypair ∈ signers)
    (signed : SignedBy S base msg leafHash keypairs psbt) (within : keypairs ⊆ signers) :
    SignedBy S base msg leafHash (keypairs ∪ {keypair | keypair ∈ parties})
      (psbt.mergeCopies (parties.map copy)) := by
  induction parties generalizing keypairs psbt with
  | nil => simpa [Psbt.mergeCopies] using signed
  | cons keypair parties ih =>
      have signer := party keypair List.mem_cons_self
      have within' : {keypair} ⊆ signers := Set.singleton_subset_iff.mpr signer
      have merged := signable.mergeSigs signed (copies keypair signer) within within'
      have all : {other | other ∈ keypair :: parties} = insert keypair {other | other ∈ parties} :=
        Set.ext fun other => List.mem_cons
      rw [all, ← Set.singleton_union, ← Set.union_assoc]
      exact ih (fun other member => party other (List.mem_cons_of_mem _ member)) merged
        (Set.union_subset within within')

/-! ## What the signatures unlock -/

open Tapscript

/-- `Signature::serialize`: 64 bytes, to which the default sighash type adds none. -/
def SchnorrSignature.serialize (sig : SchnorrSignature) : List UInt8 :=
  List.ofFn fun i : Fin 64 => UInt8.ofNat (sig.bytes.toNat / 256 ^ (63 - i.val))

/-- In this spend, the message is what a signature of the default type signs. -/
def SignsMessage (B : BitcoinLib) (env : Environment) (msg : Message) : Prop :=
  ∀ sig key, B.verifySchnorr sig msg key = .ok () → Signs env key sig.serialize

variable {T : TaprootLib} {hashing : Merkle.Hashing ScriptBuf (BitVec 256)} {tweak : Tweak}
variable {contract : EscrowContract B T} {key : XOnlyPublicKey} {block : ControlBlock}
variable {set : SignerSet} {utxos : List TxOut} {serverSigned canonical : Psbt}

/-- The signatures recorded for the keys of a collaborative leaf spend the output, in the order
of the leaf. -/
def UnlocksWith (contract : EscrowContract B T) (set : SignerSet) (key : XOnlyPublicKey)
    (block : ControlBlock) (msg : Message) (leafHash : TapLeafHash) (psbt : Psbt) : Prop :=
  ∃ sigA sigB sigServer,
    psbt.sigAt 0 ((set.parties contract.options).1, leafHash) = some ⟨sigA, .default⟩ ∧
    psbt.sigAt 0 ((set.parties contract.options).2, leafHash) = some ⟨sigB, .default⟩ ∧
    psbt.sigAt 0 (contract.options.server, leafHash) = some ⟨sigServer, .default⟩ ∧
    ∀ env, SignsMessage B env msg → ScriptPathSpend B key block (set.script B contract.options) env
      [sigA.serialize, sigB.serialize, sigServer.serialize]

theorem Spend.EscrowLeaf.serverKey {script : ScriptBuf} {version : LeafVersion}
    {server : XOnlyPublicKey} (leaf : Spend.EscrowLeaf B base block script version server utxos) :
    Spend.escrowLeafServerKey B base 0 = .ok server := by
  obtain ⟨input, here, entry⟩ := leaf.leaf
  exact Spend.escrowLeafServerKey_eq_ok_iff.mpr ⟨input, _, _, _, here, entry, leaf.keys⟩

theorem Spend.EscrowLeaf.verified {script : ScriptBuf} {version : LeafVersion}
    {server : XOnlyPublicKey} (leaf : Spend.EscrowLeaf B base block script version server utxos) :
    Spend.verifyLeafCommitment B base 0 = .ok () := by
  obtain ⟨input, here, entry⟩ := leaf.leaf
  obtain ⟨spent, key, first, taproot, parsed, committed⟩ := leaf.committed
  have known := (Spend.head?_eq_some_iff_of_known leaf.known here).mp first
  exact Spend.verifyLeafCommitment_eq_ok_iff.mpr
    ⟨input, _, _, _, spent, key, here, entry, known, taproot, parsed, committed⟩

/-- **The server's signature of a copy is accepted.** -/
theorem Unsigned.coSigns {server : Keypair} (unsigned : Unsigned B base msg leafHash signers)
    (documented : S.Documented B)
    (leaf : Spend.EscrowLeaf B base block (set.script B contract.options) leafVersionTapScript
      contract.options.server utxos)
    (rest : psbt.stripSigs = base.stripSigs)
    (named : server.publicKey.xOnly = contract.options.server) :
    ∃ serverSigned canonical, Spend.signArkTx S psbt server = .ok serverSigned ∧
      Spend.verifyServerArkTxSig B psbt serverSigned = .ok canonical := by
  have sighash : Spend.arkTxSighash B psbt 0 = .ok (msg, leafHash) :=
    (Spend.arkTxSighash_congr rest 0).trans unsigned.sighash
  have bound := Spend.length_pos_of_arkTxSighash sighash
  let sig : TaprootSignature := ⟨S.signSchnorrNoAuxRand msg server, .default⟩
  let serverSigned := psbt.insertSig 0 (sigKey leafHash server) sig
  have checked : Spend.CoSigned B psbt serverSigned server.publicKey.xOnly leafHash msg sig :=
    { unsignedTx := rfl
      leafKey := by
        rw [← Spend.escrowLeafServerKey_stripSigs, rest, Spend.escrowLeafServerKey_stripSigs, named]
        exact leaf.serverKey
      committed := by
        rw [← Spend.verifyLeafCommitment_stripSigs, rest, Spend.verifyLeafCommitment_stripSigs]
        exact leaf.verified
      sighash := sighash
      recorded := by rw [Psbt.sigAt_insertSig bound, if_pos ⟨rfl, rfl⟩]
      default := rfl
      valid := documented.signSchnorrNoAuxRand msg server }
  exact ⟨serverSigned, _, documented.signArkTx sighash server,
    Spend.verifyServerArkTxSig_eq_ok_iff.mpr ⟨_, _, _, _, checked, rfl⟩⟩

/-- An accepted co-signature is one by the server of the contract. -/
theorem Unsigned.coSigned (unsigned : Unsigned B base msg leafHash signers)
    (leaf : Spend.EscrowLeaf B base block (set.script B contract.options) leafVersionTapScript
      contract.options.server utxos)
    (rest : psbt.stripSigs = base.stripSigs)
    (accepted : Spend.verifyServerArkTxSig B psbt serverSigned = .ok canonical) :
    ∃ sig, B.verifySchnorr sig msg contract.options.server = .ok () ∧
      canonical = psbt.insertSig 0 (contract.options.server, leafHash) ⟨sig, .default⟩ := by
  obtain ⟨serverKey, leafHash', msg', ⟨sig, sighashType⟩, checked, rfl⟩ :=
    Spend.verifyServerArkTxSig_eq_ok_iff.mp accepted
  have sighash := (Spend.arkTxSighash_congr rest 0).symm.trans checked.sighash
  cases unsigned.sighash.symm.trans sighash
  have key := checked.leafKey
  rw [← Spend.escrowLeafServerKey_stripSigs, rest, Spend.escrowLeafServerKey_stripSigs] at key
  cases leaf.serverKey.symm.trans key
  obtain rfl : sighashType = .default := checked.default
  exact ⟨sig, checked.valid, rfl⟩

/-- **A copy that both parties have signed and the server has co-signed spends the escrow.** -/
theorem Unsigned.unlocksWith (builds : BuildsScripts B) (trees : BuildsTrees B T hashing tweak)
    (documented : S.Documented B) (unsigned : Unsigned B base msg leafHash signers)
    (pays : contract.scriptPubkey = 0x51 :: 0x20 :: key.serialize)
    (found : contract.controlBlock (set.script B contract.options) = .ok block)
    (leaf : Spend.EscrowLeaf B base block (set.script B contract.options) leafVersionTapScript
      contract.options.server utxos)
    {keypairA keypairB : Keypair}
    (partyA : keypairA.publicKey.xOnly = (set.parties contract.options).1)
    (partyB : keypairB.publicKey.xOnly = (set.parties contract.options).2)
    (memberA : keypairA ∈ keypairs) (memberB : keypairB ∈ keypairs)
    (signed : SignedBy S base msg leafHash keypairs psbt)
    (accepted : Spend.verifyServerArkTxSig B psbt serverSigned = .ok canonical) :
    UnlocksWith contract set key block msg leafHash canonical := by
  obtain ⟨sig, valid, rfl⟩ := unsigned.coSigned leaf signed.rest accepted
  obtain ⟨distinct, _⟩ := EscrowOptions.validate_eq_ok_iff.mp contract.valid
  obtain ⟨_, apartA, apartB⟩ := set.parties_distinct distinct
  obtain rfl := EscrowContract.outputKey_of_scriptPubkey pays
  obtain ⟨version, deep, verified⟩ := EscrowContract.controlBlock_spec trees found
  have bound : 0 < psbt.inputs.length := by
    rw [Psbt.inputs_length_of_stripSigs signed.rest]
    exact Spend.length_pos_of_arkTxSighash unsigned.sighash
  have kept {party : XOnlyPublicKey} (apart : party ≠ contract.options.server) :
      (psbt.insertSig 0 (contract.options.server, leafHash) ⟨sig, .default⟩).sigAt 0
        (party, leafHash) = psbt.sigAt 0 (party, leafHash) := by
    rw [Psbt.sigAt_insertSig bound, if_neg]
    rintro ⟨_, same⟩
    exact apart (congrArg Prod.fst same).symm
  refine ⟨S.signSchnorrNoAuxRand msg keypairA, S.signSchnorrNoAuxRand msg keypairB, sig,
    ?_, ?_, ?_, fun env signs => ⟨deep, verified, fun _ => ?_⟩⟩
  · rw [kept apartA, ← partyA]
    exact signed.signed keypairA memberA
  · rw [kept apartB, ← partyB]
    exact signed.signed keypairB memberB
  · rw [Psbt.sigAt_insertSig bound, if_pos ⟨rfl, rfl⟩]
  · have enforced : LeafPolicy.Enforced ⟨.collaborative, set⟩ contract.options
      (set.script B contract.options) := LeafPolicy.enforced builds _
    refine (enforced env _).mpr ⟨_, _, _, rfl, ?_, ?_, signs _ _ valid⟩
    · exact partyA ▸ signs _ _ (documented.signSchnorrNoAuxRand msg keypairA)
    · exact partyB ▸ signs _ _ (documented.signSchnorrNoAuxRand msg keypairB)

/-! ## A sample -/

namespace Sample

/-- Signing functions for a library whose signatures are those of `BitcoinLib.reference`. A
secret key is its public key, and only transactions have messages of their own. -/
def signing (B : BitcoinLib) : SigningLib where
  SecretKey := XOnlyPublicKey
  secretKeyFromSlice bytes :=
    if bytes.length = 32 then .ok (keyOfBytes bytes) else .error "malformed secret key"
  fromSecretKey key := ⟨key.coordinate, ⟨key, false⟩⟩
  signSchnorrNoAuxRand msg keypair := BitcoinLib.referenceSignature msg keypair.publicKey.xOnly
  signArkTransaction signer psbt index := do
    let (msg, leafHash) ← Spend.arkTxSighash B psbt index
    return psbt.insertSigs index leafHash (← signer msg)
  signCheckpointTransaction signer psbt := do
    let (msg, leafHash) ← Spend.arkTxSighash B psbt 0
    return psbt.insertSigs 0 leafHash (← signer msg)
  signDelegatePsbts signer proof forfeitPsbts :=
    match signer ⟨0⟩ with
    | .ok sigs => .ok (proof.insertSigs 0 ⟨0⟩ sigs,
        forfeitPsbts.map fun psbt => psbt.insertSigs 0 ⟨0⟩ sigs)
    | .error _ => .error "failed to sign"

theorem documented_signing {B : BitcoinLib}
    (signatures : B.verifySchnorr = BitcoinLib.reference.verifySchnorr) :
    (signing B).Documented B where
  signArkTransaction {signer psbt index msg leafHash sigs} sighash signed := by
    refine Results.bind_eq_ok_iff.mpr ⟨(msg, leafHash), sighash, ?_⟩
    exact Results.bind_eq_ok_iff.mpr ⟨sigs, signed, rfl⟩
  signSchnorrNoAuxRand msg keypair := by
    rw [signatures]
    exact BitcoinLib.verifySchnorr_referenceSignature msg keypair.publicKey.xOnly

def party (key : XOnlyPublicKey) : Keypair := ⟨key.coordinate, ⟨key, false⟩⟩

noncomputable section

/-- A transaction that spends a contract by the leaf of seller and arbiter. -/
def spending (contract : EscrowContract climbing combining) (block : ControlBlock) (txid : Txid) :
    Psbt where
  unsignedTx := ⟨2, 0, [txIn txid], []⟩
  inputs := [
    { witnessUtxo := some ⟨⟨1000⟩, contract.scriptPubkey⟩
      witnessScript := none
      tapScriptSigs := ∅
      tapScripts := (∅ : BTreeMap ControlBlock (ScriptBuf × LeafVersion)).insert block
        (contract.options.sellerArbiterScript climbing, leafVersionTapScript) }]

end

theorem wellFormed_spending (contract : EscrowContract climbing combining) (block : ControlBlock)
    (txid : Txid) : (spending contract block txid).WellFormed :=
  ⟨rfl, by simp [spending, txIn]⟩

/-- It can be signed by the parties, and it spends an escrow leaf. -/
theorem exists_spending :
    ∃ (contract : EscrowContract climbing combining) (key : XOnlyPublicKey)
      (block : ControlBlock) (utxos : List TxOut),
      contract.options = options ∧ contract.scriptPubkey = 0x51 :: 0x20 :: key.serialize ∧
      contract.controlBlock (SignerSet.script climbing .sellerArbiter contract.options) =
        .ok block ∧
      ∀ txid, Spend.EscrowLeaf climbing (spending contract block txid) block
          (SignerSet.script climbing .sellerArbiter contract.options) leafVersionTapScript
          contract.options.server utxos ∧
        ∃ msg leafHash,
          Unsigned climbing (spending contract block txid) msg leafHash (Set.range party) := by
  obtain ⟨contract, accepted⟩ := exists_contract .regtest
  have member : SignerSet.script climbing .sellerArbiter contract.options ∈
      (contract.options.tree climbing).leaves :=
    leaves_tree.mem_iff.mpr (by simp [EscrowOptions.leafScripts, SignerSet.script])
  obtain ⟨block, found⟩ : ∃ block, contract.controlBlock
      (SignerSet.script climbing .sellerArbiter contract.options) = .ok block := by
    obtain ⟨path, _, here⟩ := (contract.commits buildsTrees_combining).leaf _ member
    exact ⟨_, orError_eq_ok_iff.mpr here⟩
  obtain ⟨_, _, verified⟩ := EscrowContract.controlBlock_spec buildsTrees_combining found
  have taproot : Spend.isP2tr contract.scriptPubkey = true := by
    simp [Spend.isP2tr, EscrowContract.scriptPubkey, XOnlyPublicKey.serialize_length]
  have keys : climbing.extractChecksigPubkeys
      (SignerSet.script climbing .sellerArbiter contract.options) = _ :=
    extractChecksigPubkeys_collaborative3of3 ..
  have leaf (txid : Txid) : Spend.EscrowLeaf climbing (spending contract block txid) block
      (SignerSet.script climbing .sellerArbiter contract.options) leafVersionTapScript
      contract.options.server [⟨⟨1000⟩, contract.scriptPubkey⟩] :=
    { leaf := ⟨_, rfl, by simp [SignerSet.script]⟩
      keys := ⟨_, _, keys⟩
      known := .cons rfl .nil
      committed := ⟨_, _, rfl, taproot, BitcoinLib.keyFromSlice_serialize _, verified⟩ }
  have exists_sighash (txid : Txid) : ∃ msg leafHash,
      Spend.arkTxSighash climbing (spending contract block txid) 0 = .ok (msg, leafHash) := by
    obtain ⟨input, here, entry⟩ := (leaf txid).leaf
    have digest (leafHash : TapLeafHash) : ∃ msg, climbing.scriptSpendSighash
        (spending contract block txid).unsignedTx 0 [⟨⟨1000⟩, contract.scriptPubkey⟩] leafHash =
          .ok msg := by
      simp [climbing, BitcoinLib.reference, spending]
    obtain ⟨msg, sighash⟩ := digest (climbing.leafHash _ leafVersionTapScript)
    exact ⟨msg, _, Spend.arkTxSighash_eq_ok_iff.mpr
      ⟨_, input, _, _, _, (leaf txid).known, here, entry, rfl, sighash⟩⟩
  refine ⟨contract, _, block, [⟨⟨1000⟩, contract.scriptPubkey⟩],
    EscrowContract.new_options accepted, rfl, found, fun txid => ?_⟩
  obtain ⟨msg, leafHash, sighash⟩ := exists_sighash txid
  refine ⟨leaf txid, msg, leafHash, ⟨?_, ?_⟩, sighash⟩
  · rintro _ ⟨key, rfl⟩
    simp [Psbt.sigAt, spending]
  · rintro _ ⟨key, rfl⟩ _ ⟨key', rfl⟩ same
    exact congrArg party same

end Sample

end ArkadeEscrow
