import ArkadeEscrow.Ruby.Grammar
import ArkadeEscrow.Signing

/-!
# Exchanging an ark transaction

Parties pass a PSBT around as base64 text, through channels that are their own: each of them
signs what it has with `rbSignArkTx`, and merges what it gets with `rbMergeSigs`. Nothing says in
which order this happens, or that a party signs once, or that a copy arrives once.

None of it matters. In any exchange that starts with one copy no call raises, and a copy is the
text of the PSBT with exactly the signatures of the keys that its holder has heard of
(`exchange_accumulates`). Once these are the two keys of a collaborative leaf, what the server's
accepted co-signature makes of the copy spends the escrow (`exchange_unlocks`).
-/

set_option autoImplicit false

namespace ArkadeEscrow
namespace Ruby

open Interaction

variable (B : BitcoinLib) (S : SigningLib)

/-! ## The functions of the API -/

/-- What reaches Ruby is the text of the PSBT, or an exception without further context. -/
def psbtFromBase64 (s : String) : Except Error Psbt := do
  let bytes ← ofDisplay (B.base64Decode s)
  ofDisplay (B.deserialize bytes)

/-- The functions that sign one PSBT. -/
def signText (sign : Psbt → Keypair → Except Error Psbt) (psbtB64 secretKeyHex : String) :
    Checked String := do
  let psbt ← psbtFromBase64 B psbtB64
  let kp ← parseSecretKey S.secretKeyFromSlice S.fromSecretKey secretKeyHex
  let psbt ← sign psbt kp
  return B.psbtToBase64 psbt

def rbSignArkTx (psbtB64 secretKeyHex : String) : Checked String :=
  signText B S (Spend.signArkTx S) psbtB64 secretKeyHex

def rbSignCheckpoint (psbtB64 secretKeyHex : String) : Checked String :=
  signText B S (Spend.signCheckpoint S) psbtB64 secretKeyHex

def rbMergeSigs (baseB64 otherB64 : String) : Except Error String := do
  let base ← psbtFromBase64 B baseB64
  let other ← psbtFromBase64 B otherB64
  let base ← Spend.mergeArkTxSigs base other
  return B.psbtToBase64 base

variable {B S}

theorem psbtFromBase64_psbtToBase64 (trips : B.PsbtRoundTrips) {psbt : Psbt}
    (wellFormed : psbt.WellFormed) : psbtFromBase64 B (B.psbtToBase64 psbt) = .ok psbt := by
  obtain ⟨bytes, decoded, read⟩ := Results.bind_eq_ok_iff.mp (trips psbt wellFormed)
  exact Results.bind_eq_ok_iff.mpr ⟨bytes, by simpa using decoded, by simpa using read⟩

theorem signText_eq_ok_iff {sign : Psbt → Keypair → Except Error Psbt}
    {psbtB64 secretKeyHex text : String} :
    signText B S sign psbtB64 secretKeyHex = some (.ok text) ↔
      ∃ psbt kp psbt', psbtFromBase64 B psbtB64 = .ok psbt ∧
        parseSecretKey S.secretKeyFromSlice S.fromSecretKey secretKeyHex = some (.ok kp) ∧
          sign psbt kp = .ok psbt' ∧ B.psbtToBase64 psbt' = text := by
  simp only [signText, Checked.bind_eq_ok_iff, Checked.liftExcept_eq_ok_iff]
  constructor
  · rintro ⟨psbt, read, kp, parsed, psbt', signed, ⟨⟩⟩
    exact ⟨psbt, kp, psbt', read, parsed, signed, rfl⟩
  · rintro ⟨psbt, kp, psbt', read, parsed, signed, rfl⟩
    exact ⟨psbt, read, kp, parsed, psbt', signed, rfl⟩

/-! ## The exchange -/

/-- What a call returns. It may raise or panic instead. -/
def returned {α : Type} : Checked α → Option α
  | some (.ok a) => some a
  | _ => none

theorem toOption_eq_some_iff {α : Type} {x : Except Error α} {a : α} :
    x.toOption = some a ↔ x = .ok a := by
  cases x <;> simp [Except.toOption]

theorem returned_eq_some_iff {α : Type} {x : Checked α} {a : α} :
    returned x = some a ↔ x = some (.ok a) := by
  constructor
  · intro ended
    rcases x with _ | _ | b
    · cases ended
    · cases ended
    · cases ended
      rfl
  · rintro rfl
    rfl

variable (S) in
/-- The keypair of a secret key. -/
def keypairOf (secretKeyHex : String) : Option Keypair :=
  returned (parseSecretKey S.secretKeyFromSlice S.fromSecretKey secretKeyHex)

variable (B S) in
/-- The ark transaction as a document of texts, which secret keys contribute to. -/
def arkTxTexts : Document String String where
  contribute secretKeyHex psbtB64 := returned (rbSignArkTx B S psbtB64 secretKeyHex)
  merge baseB64 otherB64 := (rbMergeSigs B baseB64 otherB64).toOption

variable (S) in
/-- The keypairs of these secret keys. -/
def keypairsOf (secrets : Set String) : Set Keypair :=
  {keypair | ∃ secret ∈ secrets, keypairOf S secret = some keypair}

variable {base : Psbt} {msg : Message} {leafHash : TapLeafHash} {signers : Set Keypair}
variable {secretKeyHex : String} {keypair : Keypair}

/-- Signing the text of a PSBT signs the PSBT. -/
theorem returned_signText (trips : B.PsbtRoundTrips)
    (parsed : keypairOf S secretKeyHex = some keypair)
    (sign : Psbt → Keypair → Except Error Psbt) {psbt : Psbt} (wellFormed : psbt.WellFormed) :
    returned (signText B S sign (B.psbtToBase64 psbt) secretKeyHex) =
      (sign psbt keypair).toOption.map B.psbtToBase64 := by
  have parsed := returned_eq_some_iff.mp parsed
  refine Option.ext fun text => ?_
  simp only [Option.map_eq_some_iff, toOption_eq_some_iff]
  rw [returned_eq_some_iff, signText_eq_ok_iff]
  constructor
  · rintro ⟨_, _, psbt', read, parsed', signed, rfl⟩
    cases (psbtFromBase64_psbtToBase64 trips wellFormed).symm.trans read
    cases parsed.symm.trans parsed'
    exact ⟨psbt', signed, rfl⟩
  · rintro ⟨psbt', signed, rfl⟩
    exact ⟨psbt, keypair, psbt', psbtFromBase64_psbtToBase64 trips wellFormed, parsed, signed,
      rfl⟩

theorem contribute_arkTxTexts (trips : B.PsbtRoundTrips)
    (parsed : keypairOf S secretKeyHex = some keypair) {psbt : Psbt}
    (wellFormed : psbt.WellFormed) :
    (arkTxTexts B S).contribute secretKeyHex (B.psbtToBase64 psbt) =
      ((arkTxDocument S).contribute keypair psbt).map B.psbtToBase64 :=
  returned_signText trips parsed (Spend.signArkTx S) wellFormed

/-- Merging texts merges the PSBTs. -/
theorem merge_arkTxTexts (trips : B.PsbtRoundTrips) {psbt other : Psbt}
    (wellFormed : psbt.WellFormed) (wellFormed' : other.WellFormed) :
    (arkTxTexts B S).merge (B.psbtToBase64 psbt) (B.psbtToBase64 other) =
      ((arkTxDocument S).merge psbt other).map B.psbtToBase64 := by
  simp only [arkTxTexts, arkTxDocument, rbMergeSigs, psbtFromBase64_psbtToBase64 trips wellFormed,
    psbtFromBase64_psbtToBase64 trips wellFormed']
  rw [Results.ok_bind, Results.ok_bind]
  cases Spend.mergeArkTxSigs psbt other <;> rfl

variable (B S base msg leafHash signers) in
/-- The text of the PSBT with the signatures that these secret keys give. -/
def CopyOf (secrets : Set String) (text : String) : Prop :=
  ∃ psbt, text = B.psbtToBase64 psbt ∧ keypairsOf S secrets ⊆ signers ∧
    SignedBy S base msg leafHash (keypairsOf S secrets) psbt

variable (S signers) in
/-- The secret key of one of the signers. -/
def SecretOf (secret : String) : Prop := ∃ keypair, keypairOf S secret = some keypair ∧
  keypair ∈ signers

/-- **The texts accumulate signatures.** -/
theorem accumulates_arkTxTexts (trips : B.PsbtRoundTrips) (documented : S.Documented B)
    (wellFormed : base.WellFormed) (unsigned : Unsigned B base msg leafHash signers) :
    Accumulates (arkTxTexts B S) (SecretOf S signers) (CopyOf B S base msg leafHash signers) :=
  (unsigned.accumulates documented).encoded
    (fun parsed copy => contribute_arkTxTexts trips parsed (SignedBy.wellFormed copy.2 wellFormed))
    fun copy copy' =>
      merge_arkTxTexts trips (SignedBy.wellFormed copy.2 wellFormed)
        (SignedBy.wellFormed copy'.2 wellFormed)

theorem copyOf_empty : CopyOf B S base msg leafHash signers ∅ (B.psbtToBase64 base) := by
  have none : keypairsOf S ∅ = ∅ := by simp [keypairsOf]
  exact ⟨base, rfl, by simp [none], none ▸ signedBy_empty base⟩

/-- Copies with the same signatures are one text. -/
theorem CopyOf.unique {secrets secrets' : Set String} {text text' : String}
    (same : keypairsOf S secrets = keypairsOf S secrets')
    (copy : CopyOf B S base msg leafHash signers secrets text)
    (copy' : CopyOf B S base msg leafHash signers secrets' text') : text = text' := by
  obtain ⟨psbt, rfl, _, signed⟩ := copy
  obtain ⟨psbt', rfl, _, signed'⟩ := copy'
  rw [← same] at signed'
  rw [signed.unique signed']

variable {P : Type} [DecidableEq P] {deeds : List (Deed P String)}

/-- **An exchange accumulates signatures.** Whatever the parties do with their secret keys and
with what they have been sent: nothing is refused, a copy is the text of the PSBT with the
signatures of the keys that were heard of, and it is the same text for everyone who has heard of
the same keys. -/
theorem exchange_accumulates (trips : B.PsbtRoundTrips) (documented : S.Documented B)
    (wellFormed : base.WellFormed) (unsigned : Unsigned B base msg leafHash signers)
    (secrets : ∀ deed ∈ deeds, deed.By (SecretOf S signers)) (p : P) :
    Option.Rel (Circulation.Matches fun known text =>
        known ⊆ contributed deeds ∧ CopyOf B S base msg leafHash signers known text)
      ((Document.sets String).run (Circulation.start p ∅) deeds)
      ((arkTxTexts B S).run (Circulation.start p (B.psbtToBase64 base)) deeds) ∧
    ∀ known known' text text', keypairsOf S known = keypairsOf S known' →
      CopyOf B S base msg leafHash signers known text →
      CopyOf B S base msg leafHash signers known' text' → text = text' :=
  ⟨(accumulates_arkTxTexts trips documented wellFormed unsigned).circulates secrets p copyOf_empty,
    fun _ _ _ _ same copy copy' => copy.unique same copy'⟩

/-! ### A sample -/

open ArkadeEscrow.Sample

def secretText (key : XOnlyPublicKey) : String := toLowerHex key.serialize

theorem keypairOf_secretText (B : BitcoinLib) (key : XOnlyPublicKey) :
    keypairOf (signing B) (secretText key) = some (party key) := by
  let bytes : Vector UInt8 32 := ⟨key.serialize.toArray, key.serialize_length⟩
  have parsed : hexTo32Bytes (secretText key) = some (.ok bytes) := hexTo32Bytes_toLowerHex bytes
  have slice : (signing B).secretKeyFromSlice key.serialize = .ok key := by
    simp [signing, key.serialize_length, keyOfBytes_serialize]
  refine returned_eq_some_iff.mpr (Checked.bind_eq_ok_iff.mpr ⟨key, ?_, rfl⟩)
  refine Checked.bind_eq_ok_iff.mpr ⟨bytes, parsed, Checked.liftExcept_eq_ok_iff.mpr ?_⟩
  exact ofDisplay_eq_ok_iff.mpr slice

/-- The arbiter signs a copy and sends it to the seller, who signs another one and merges it. -/
def sampleDeeds : List (Deed Bool String) :=
  [.send true, .contribute true (secretText options.arbiter), .send true, .adopt false 0,
    .contribute false (secretText options.seller), .merge false 1]

theorem secretOf_sampleDeeds (B : BitcoinLib) :
    ∀ deed ∈ sampleDeeds, deed.By (SecretOf (signing B) (Set.range party)) := by
  have secret (key : XOnlyPublicKey) :
      SecretOf (signing B) (Set.range party) (secretText key) :=
    ⟨party key, keypairOf_secretText B key, key, rfl⟩
  simp [sampleDeeds, Deed.By, secret]

theorem psbtRoundTrips_climbing : climbing.PsbtRoundTrips := BitcoinLib.psbtRoundTrips_reference

theorem exchange_accumulates_sample : ∃ base msg leafHash,
    Option.Rel (Circulation.Matches fun known text => known ⊆ contributed sampleDeeds ∧
        CopyOf climbing (signing climbing) base msg leafHash (Set.range party) known text)
      ((Document.sets String).run (Circulation.start true ∅) sampleDeeds)
      ((arkTxTexts climbing (signing climbing)).run
        (Circulation.start true (climbing.psbtToBase64 base)) sampleDeeds) := by
  obtain ⟨contract, _, block, _, _, _, _, signable⟩ := exists_spending
  obtain ⟨_, msg, leafHash, unsigned⟩ := signable ⟨0⟩
  exact ⟨_, msg, leafHash, (exchange_accumulates psbtRoundTrips_climbing (documented_signing rfl)
    (wellFormed_spending ..) unsigned (secretOf_sampleDeeds climbing) true).1⟩

/-! ## What the exchange is for -/

variable {T : TaprootLib} {hashing : Merkle.Hashing ScriptBuf (BitVec 256)} {tweak : Tweak}
variable {contract : EscrowContract B T} {key : XOnlyPublicKey} {block : ControlBlock}
variable {set : SignerSet} {utxos : List TxOut}

/-- **An exchange ends in a spend.** The first copy spends an escrow by a collaborative leaf.
Whoever has heard of both parties of the leaf has a copy from which every accepted co-signature
makes a spend of the escrow, and the server's own signature of it is accepted. -/
theorem exchange_unlocks (builds : BuildsScripts B) (trees : BuildsTrees B T hashing tweak)
    (trips : B.PsbtRoundTrips) (documented : S.Documented B) (wellFormed : base.WellFormed)
    (unsigned : Unsigned B base msg leafHash signers)
    (secrets : ∀ deed ∈ deeds, deed.By (SecretOf S signers))
    (pays : contract.scriptPubkey = 0x51 :: 0x20 :: key.serialize)
    (found : contract.controlBlock (set.script B contract.options) = .ok block)
    (leaf : Spend.EscrowLeaf B base block (set.script B contract.options) leafVersionTapScript
      contract.options.server utxos)
    {p holder : P} {v : Circulation P (Set String)} {known : Set String}
    (done : (Document.sets String).run (Circulation.start p ∅) deeds = some v)
    (heard : v.hands holder = some known) {keypairA keypairB : Keypair}
    (memberA : keypairA ∈ keypairsOf S known) (memberB : keypairB ∈ keypairsOf S known)
    (partyA : keypairA.publicKey.xOnly = (set.parties contract.options).1)
    (partyB : keypairB.publicKey.xOnly = (set.parties contract.options).2) :
    ∃ w own, (arkTxTexts B S).run (Circulation.start p (B.psbtToBase64 base)) deeds = some w ∧
      w.hands holder = some (B.psbtToBase64 own) ∧
      (∀ serverSigned canonical, Spend.verifyServerArkTxSig B own serverSigned = .ok canonical →
        UnlocksWith contract set key block msg leafHash canonical) ∧
      ∀ server : Keypair, server.publicKey.xOnly = contract.options.server →
        ∃ serverSigned canonical, Spend.signArkTx S own server = .ok serverSigned ∧
          Spend.verifyServerArkTxSig B own serverSigned = .ok canonical := by
  have same := (accumulates_arkTxTexts trips documented wellFormed unsigned).circulates secrets p
    copyOf_empty
  rw [done] at same
  obtain ⟨w, ran, same⟩ := exists_of_rel_some same
  have copy := same.hands holder
  rw [heard] at copy
  obtain ⟨text, here, _, own, rfl, _, signed⟩ := exists_of_rel_some copy
  refine ⟨w, own, ran, here, fun serverSigned canonical accepted => ?_, fun server named => ?_⟩
  · exact unsigned.unlocksWith builds trees documented pays found leaf partyA partyB memberA
      memberB signed accepted
  · exact unsigned.coSigns documented leaf signed.rest named

theorem exchange_unlocks_sample :
    ∃ (contract : EscrowContract climbing combining) (block : ControlBlock) (key : XOnlyPublicKey)
      (w : Circulation Bool String) (own : Psbt) (msg : Message) (leafHash : TapLeafHash),
      contract.scriptPubkey = 0x51 :: 0x20 :: key.serialize ∧
      (arkTxTexts climbing (signing climbing)).run (Circulation.start true
        (climbing.psbtToBase64 (spending contract block ⟨0⟩))) sampleDeeds = some w ∧
      w.hands false = some (climbing.psbtToBase64 own) ∧
      ∃ serverSigned canonical,
        Spend.signArkTx (signing climbing) own (party options.server) = .ok serverSigned ∧
        Spend.verifyServerArkTxSig climbing own serverSigned = .ok canonical ∧
        UnlocksWith contract .sellerArbiter key block msg leafHash canonical := by
  obtain ⟨contract, key, block, utxos, same, pays, found, signable⟩ := exists_spending
  obtain ⟨leaf, msg, leafHash, unsigned⟩ := signable ⟨0⟩
  have done : (Document.sets String).run (Circulation.start true ∅) sampleDeeds = some _ := rfl
  have heard (key : XOnlyPublicKey) {known : Set String} (member : secretText key ∈ known) :
      party key ∈ keypairsOf (signing climbing) known :=
    ⟨_, member, keypairOf_secretText climbing key⟩
  obtain ⟨w, own, ran, here, unlocks, signs⟩ := exchange_unlocks buildsScripts_climbing
    buildsTrees_combining psbtRoundTrips_climbing (documented_signing rfl)
    (wellFormed_spending ..) unsigned (secretOf_sampleDeeds climbing) pays found leaf done
    (Function.update_self ..)
    (heard options.seller (by simp)) (heard options.arbiter (by simp)) (by rw [same]; rfl)
    (by rw [same]; rfl)
  obtain ⟨serverSigned, canonical, signed, accepted⟩ :=
    signs (party options.server) (by rw [same]; rfl)
  exact ⟨contract, block, key, w, own, msg, leafHash, pays, ran, here, serverSigned, canonical,
    signed, accepted, unlocks serverSigned canonical accepted⟩

end Ruby
end ArkadeEscrow
