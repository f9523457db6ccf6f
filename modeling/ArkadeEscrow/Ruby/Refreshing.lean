import ArkadeEscrow.Lookup.Conservation
import ArkadeEscrow.Ruby.Exchange

/-!
# A refresh through the Ruby API

What a refresh has prepared leaves the library as texts: `prepareRefresh` writes them, the
parties sign them one after the other with `rbSignRefresh`, and `refreshEscrow` reads them and
runs the ceremony. The messages do not pass through the signers, and the caller puts everything
together again. A caller may leave the delete proof aside, and then gets no cleanup.

Nothing is lost on the way (`refresh_through_texts`): the ceremony that runs is the one that the
library itself would run after `signRefresh` with the same keypairs, and its delete proof still
covers the inputs.
-/

set_option autoImplicit false

namespace ArkadeEscrow
namespace Ruby

open Batch Refresh Lookup

/-- Texts of types of other crates. -/
structure TextLib (L : BatchLib) where
  /-- `str::parse::<OutPoint>`. -/
  parseOutPoint : String → Except String OutPoint
  /-- `Intent::serialize_message`. -/
  serializeMessage : L.IntentMessage → Except String String
  /-- `serde_json::from_str`, for a message. -/
  messageFromStr : String → Except String L.IntentMessage
  /-- `IntentMessage::Delete { .. }`. -/
  isDelete : L.IntentMessage → Bool

variable {L : BatchLib} {A : ArkLib L} {T : TaprootLib}
variable (B : BitcoinLib) (S : SigningLib) (X : TextLib L)

def parseSignerSet (signerSet : String) : Except Error SignerSet :=
  match signerSet with
  | "buyer_arbiter" => .ok .buyerArbiter
  | "seller_arbiter" => .ok .sellerArbiter
  | "seller_buyer" => .ok .sellerBuyer
  | _ =>
    .error (.msg (s!"unknown signer_set: {signerSet}; " ++
      "expected 'buyer_arbiter', 'seller_arbiter', or 'seller_buyer'"))

/-! ## What is handed to the caller -/

/-- A prepared refresh, as texts. -/
structure RefreshTexts where
  intentProof : String
  intentMessage : String
  forfeitPsbts : List String
  cosignerPk : String
  deleteProof : Option String
  deleteMessage : Option String

/-- The proofs of a refresh, as texts: what the parties sign. -/
structure ProofTexts where
  intentProof : String
  forfeitPsbts : List String
  deleteProof : Option String

/-- `intent.as_ref().map(..).transpose()`. -/
def messageText (intent : Option (Intent L)) : Except Error (Option String) :=
  match intent with
  | none => .ok none
  | some intent => do return some (← ofDisplay (X.serializeMessage intent.message))

def refreshTexts (refresh : RefreshIntent L) : Except Error RefreshTexts := do
  let intentProof := B.psbtToBase64 refresh.intent.proof
  let intentMessage ← ofDisplay (X.serializeMessage refresh.intent.message)
  let forfeitPsbts := refresh.forfeitPsbts.map B.psbtToBase64
  let cosignerPk := refresh.refreshCosignerPk.text
  let deleteProof := refresh.deleteIntent.map fun delete => B.psbtToBase64 delete.proof
  let deleteMessage ← messageText X refresh.deleteIntent
  return { intentProof, intentMessage, forfeitPsbts, cosignerPk, deleteProof, deleteMessage }

def parseRefreshVtxo (data : String × UInt64 × Bool) : Except Error RefreshVtxo := do
  let (outpointStr, amountSats, isSwept) := data
  let outpoint ← ofDisplay (X.parseOutPoint outpointStr)
  return { outpoint, amount := ⟨amountSats⟩, isSwept }

def prepareRefresh (overflowChecks : Bool) (clock : Option Nat)
    (client : Lookup.EscrowClient A) (contract : EscrowContract B T)
    (vtxosData : List (String × UInt64 × Bool)) (signerSet cosignerSkHex : String) :
    Checked RefreshTexts := do
  let vtxos ← (vtxosData.mapM (parseRefreshVtxo X) : Except Error (List RefreshVtxo))
  let signerSet ← parseSignerSet signerSet
  let cosignerKp ← parseSecretKey S.secretKeyFromSlice S.fromSecretKey cosignerSkHex
  let refresh ← Lookup.prepareRefresh overflowChecks clock client contract vtxos signerSet
    cosignerKp.publicKey
  refreshTexts B X refresh

/-! ## Signing -/

def psbtsFromBase64 (texts : List String) : Except Error (List Psbt) :=
  texts.mapM (psbtFromBase64 B)

def signIntentAndForfeits (intentProofB64 : String) (forfeitPsbtsB64 : List String)
    (secretKeyHex : String) : Checked (String × List String) := do
  let intentProof ← psbtFromBase64 B intentProofB64
  let kp ← parseSecretKey S.secretKeyFromSlice S.fromSecretKey secretKeyHex
  let forfeitPsbts ← psbtsFromBase64 B forfeitPsbtsB64
  let (signedIntent, forfeitPsbts) ←
    ofDisplay (S.signDelegatePsbts (signWith S kp) intentProof forfeitPsbts)
  return (B.psbtToBase64 signedIntent, forfeitPsbts.map B.psbtToBase64)

def rbSignRefresh (texts : ProofTexts) (secretKeyHex : String) : Checked ProofTexts := do
  let (intentProof, forfeitPsbts) ←
    signIntentAndForfeits B S texts.intentProof texts.forfeitPsbts secretKeyHex
  match texts.deleteProof with
  | none => return { intentProof, forfeitPsbts, deleteProof := none }
  | some deleteB64 =>
      let proof ← psbtFromBase64 B deleteB64
      let kp ← parseSecretKey S.secretKeyFromSlice S.fromSecretKey secretKeyHex
      let proof ← signDeleteIntentProof S proof kp
      return { intentProof, forfeitPsbts, deleteProof := some (B.psbtToBase64 proof) }

/-- The parties sign one after the other. -/
def signInTurn (texts : ProofTexts) (secretKeys : List String) : Checked ProofTexts :=
  secretKeys.foldlM (rbSignRefresh B S) texts

/-! ## What is handed back -/

/-- Both parts or neither. -/
def parseDeleteIntent (proofB64 messageJson : Option String) :
    Except Error (Option (Intent L)) :=
  match proofB64, messageJson with
  | none, none => .ok none
  | some proof, some message => do
      let message ← ofDisplay (X.messageFromStr message)
      ensure (X.isDelete message) "delete_message_json is not a delete message"
      let proof ← psbtFromBase64 B proof
      return some { proof, message }
  | _, _ => .error (.msg "delete proof and delete message must be given together")

/-- The refresh that the texts describe, and the keypair of its cosigner. -/
def readRefresh (texts : ProofTexts) (intentMessageJson : String)
    (deleteMessageJson : Option String) (cosignerSkHex : String) :
    Checked (RefreshIntent L × Keypair) := do
  let deleteIntent ← parseDeleteIntent B X texts.deleteProof deleteMessageJson
  let proof ← psbtFromBase64 B texts.intentProof
  let message ← ofDisplay (X.messageFromStr intentMessageJson)
  let forfeitPsbts ← psbtsFromBase64 B texts.forfeitPsbts
  let cosignerKp ← parseSecretKey S.secretKeyFromSlice S.fromSecretKey cosignerSkHex
  let refresh : RefreshIntent L :=
    { intent := { proof, message }
      forfeitPsbts
      refreshCosignerPk := cosignerKp.publicKey
      deleteIntent }
  return (refresh, cosignerKp)

/-- The program that the client runs, and the text of what it returns. -/
def refreshEscrow (statusText : Status → String) (client : Refresh.EscrowClient)
    (texts : ProofTexts) (intentMessageJson : String) (deleteMessageJson : Option String)
    (cosignerSkHex : String) :
    Checked (Interaction.Fallible (Refresh.interface L).scheduled Error String) := do
  let (refresh, cosignerKp) ← readRefresh B S X texts intentMessageJson deleteMessageJson
    cosignerSkHex
  return B.txidToString <$> Refresh.refreshEscrow B statusText client refresh cosignerKp

/-! ## Signing through texts -/

/-- The proofs of a refresh, as they are handed to the caller. -/
def proofTexts (refresh : RefreshIntent L) : ProofTexts where
  intentProof := B.psbtToBase64 refresh.intent.proof
  forfeitPsbts := refresh.forfeitPsbts.map B.psbtToBase64
  deleteProof := refresh.deleteIntent.map fun delete => B.psbtToBase64 delete.proof

/-- The keypairs sign in turn. -/
def signRefreshInTurn (refresh : RefreshIntent L) (keypairs : List Keypair) :
    Except Error (RefreshIntent L) :=
  keypairs.foldlM (signRefresh S) refresh

variable {B S X} {refresh refresh' : RefreshIntent L} {keypair : Keypair}
variable {secretKeyHex : String} {texts : ProofTexts}

/-- The PSBTs of a refresh are well-formed. -/
structure WellFormed (refresh : RefreshIntent L) : Prop where
  intent : refresh.intent.proof.WellFormed
  forfeits : ∀ psbt ∈ refresh.forfeitPsbts, psbt.WellFormed
  deletes : ∀ delete, refresh.deleteIntent = some delete → delete.proof.WellFormed

theorem psbtsFromBase64_map (trips : B.PsbtRoundTrips) {psbts : List Psbt}
    (wellFormed : ∀ psbt ∈ psbts, psbt.WellFormed) :
    psbtsFromBase64 B (psbts.map B.psbtToBase64) = .ok psbts := by
  rw [psbtsFromBase64, Results.mapM_eq_ok_iff, List.forall₂_map_left_iff, List.forall₂_same]
  exact fun psbt member => psbtFromBase64_psbtToBase64 trips (wellFormed psbt member)

theorem signIntentAndForfeits_eq_ok_iff (trips : B.PsbtRoundTrips)
    (parsed : keypairOf S secretKeyHex = some keypair) {proof : Psbt} {forfeitPsbts : List Psbt}
    (wellFormed : proof.WellFormed) (forfeits : ∀ psbt ∈ forfeitPsbts, psbt.WellFormed)
    {out : String × List String} :
    signIntentAndForfeits B S (B.psbtToBase64 proof) (forfeitPsbts.map B.psbtToBase64)
        secretKeyHex = some (.ok out) ↔
      ∃ proof' forfeitPsbts',
        S.signDelegatePsbts (signWith S keypair) proof forfeitPsbts = .ok (proof', forfeitPsbts') ∧
          out = (B.psbtToBase64 proof', forfeitPsbts'.map B.psbtToBase64) := by
  have parsed := returned_eq_some_iff.mp parsed
  simp only [signIntentAndForfeits, Checked.bind_eq_ok_iff, Checked.liftExcept_eq_ok_iff,
    psbtFromBase64_psbtToBase64 trips wellFormed, psbtsFromBase64_map trips forfeits, parsed,
    ofDisplay_eq_ok_iff]
  constructor
  · rintro ⟨_, ⟨⟩, _, ⟨⟩, _, ⟨⟩, ⟨proof', forfeitPsbts'⟩, signed, ⟨⟩⟩
    exact ⟨proof', forfeitPsbts', signed, rfl⟩
  · rintro ⟨proof', forfeitPsbts', signed, rfl⟩
    exact ⟨proof, rfl, keypair, rfl, forfeitPsbts, rfl, (proof', forfeitPsbts'), signed, rfl⟩

/-- What signing a refresh consists of. -/
theorem signRefresh_eq_ok_iff :
    signRefresh S refresh keypair = .ok refresh' ↔
      ∃ proof forfeitPsbts deleteIntent,
        S.signDelegatePsbts (signWith S keypair) refresh.intent.proof refresh.forfeitPsbts =
          .ok (proof, forfeitPsbts) ∧
        Option.Rel (fun delete delete' : Intent L => ∃ proof,
          signDeleteIntentProof S delete.proof keypair = .ok proof ∧
            delete' = { delete with proof }) refresh.deleteIntent deleteIntent ∧
        refresh' =
          { refresh with
            intent := { refresh.intent with proof }
            forfeitPsbts
            deleteIntent } := by
  constructor
  · intro signed
    obtain ⟨⟨proof, forfeitPsbts⟩, signed, rest⟩ := Results.bind_eq_ok_iff.mp signed
    have signed := printed_eq_ok_iff.mp signed
    refine ⟨proof, forfeitPsbts, refresh'.deleteIntent, signed, ?_⟩
    obtain ⟨intent, forfeits, cosigner, delete | delete⟩ := refresh
    · cases rest
      exact ⟨.none, rfl⟩
    · obtain ⟨deleteProof, signed', rest⟩ := Results.bind_eq_ok_iff.mp rest
      cases rest
      exact ⟨.some ⟨deleteProof, signed', rfl⟩, rfl⟩
  · rintro ⟨proof, forfeitPsbts, deleteIntent, signed, deletes, rfl⟩
    refine Results.bind_eq_ok_iff.mpr ⟨(proof, forfeitPsbts), printed_eq_ok_iff.mpr signed, ?_⟩
    obtain ⟨intent, forfeits, cosigner, delete | delete⟩ := refresh
    · cases deletes
      rfl
    · cases deletes with
      | some here =>
          obtain ⟨deleteProof, signed', rfl⟩ := here
          exact Results.bind_eq_ok_iff.mpr ⟨deleteProof, signed', rfl⟩

/-- **Signing the texts of a refresh signs the refresh.** -/
theorem rbSignRefresh_proofTexts (trips : B.PsbtRoundTrips)
    (parsed : keypairOf S secretKeyHex = some keypair) (wellFormed : WellFormed refresh) :
    rbSignRefresh B S (proofTexts B refresh) secretKeyHex = some (.ok texts) ↔
      ∃ refresh', signRefresh S refresh keypair = .ok refresh' ∧ texts = proofTexts B refresh' := by
  have key := returned_eq_some_iff.mp parsed
  simp only [signRefresh_eq_ok_iff, rbSignRefresh, Checked.bind_eq_ok_iff, proofTexts,
    signIntentAndForfeits_eq_ok_iff trips parsed wellFormed.intent wellFormed.forfeits]
  obtain ⟨intent, forfeits, cosigner, delete | delete⟩ := refresh
  · constructor
    · rintro ⟨_, ⟨proof, forfeitPsbts, signed, rfl⟩, ⟨⟩⟩
      exact ⟨_, ⟨proof, forfeitPsbts, none, signed, .none, rfl⟩, rfl⟩
    · rintro ⟨_, ⟨proof, forfeitPsbts, _, signed, ⟨⟩, rfl⟩, rfl⟩
      exact ⟨_, ⟨proof, forfeitPsbts, signed, rfl⟩, rfl⟩
  · simp only [Option.map_some, Checked.bind_eq_ok_iff, Checked.liftExcept_eq_ok_iff,
      psbtFromBase64_psbtToBase64 trips (wellFormed.deletes delete rfl), key]
    constructor
    · rintro ⟨_, ⟨proof, forfeitPsbts, signed, rfl⟩, _, ⟨⟩, _, ⟨⟩, deleteProof, signed', ⟨⟩⟩
      exact ⟨_, ⟨proof, forfeitPsbts, _, signed, .some ⟨deleteProof, signed', rfl⟩, rfl⟩, rfl⟩
    · rintro ⟨_, ⟨proof, forfeitPsbts, _, signed, ⟨deleteProof, signed', rfl⟩, rfl⟩, rfl⟩
      exact ⟨_, ⟨proof, forfeitPsbts, signed, rfl⟩, _, rfl, _, rfl, deleteProof, signed', rfl⟩

/-- Whoever signs has a keypair. -/
theorem exists_keypair_of_rbSignRefresh {texts' : ProofTexts}
    (signed : rbSignRefresh B S texts secretKeyHex = some (.ok texts')) :
    ∃ keypair, keypairOf S secretKeyHex = some keypair := by
  obtain ⟨_, signed, _⟩ := Checked.bind_eq_ok_iff.mp signed
  obtain ⟨_, _, signed⟩ := Checked.bind_eq_ok_iff.mp signed
  obtain ⟨keypair, parsed, _⟩ := Checked.bind_eq_ok_iff.mp signed
  exact ⟨keypair, returned_eq_some_iff.mpr parsed⟩

/-! ## What signing leaves -/

/-- Signing does not change what is signed, and leaves as many input records. -/
def SigningLib.KeepsTransactions (S : SigningLib) : Prop :=
  ∀ signer proof forfeitPsbts proof' forfeitPsbts',
    S.signDelegatePsbts signer proof forfeitPsbts = .ok (proof', forfeitPsbts') →
      proof'.SameShape proof ∧ List.Forall₂ Psbt.SameShape forfeitPsbts' forfeitPsbts

/-- Intents that differ in their signatures. -/
def SameIntent (intent intent' : Intent L) : Prop :=
  intent'.message = intent.message ∧ intent'.proof.unsignedTx = intent.proof.unsignedTx

/-- Refreshes that differ in their signatures, and in the forfeits. -/
structure SameRefresh (refresh refresh' : RefreshIntent L) : Prop where
  intent : SameIntent refresh.intent refresh'.intent
  cosigner : refresh'.refreshCosignerPk = refresh.refreshCosignerPk
  deletes : Option.Rel SameIntent refresh.deleteIntent refresh'.deleteIntent

theorem SameRefresh.refl (refresh : RefreshIntent L) : SameRefresh refresh refresh where
  intent := ⟨rfl, rfl⟩
  cosigner := rfl
  deletes := by
    cases refresh.deleteIntent with
    | none => exact .none
    | some delete => exact .some ⟨rfl, rfl⟩

theorem SameRefresh.trans {refresh'' : RefreshIntent L} (same : SameRefresh refresh refresh')
    (same' : SameRefresh refresh' refresh'') : SameRefresh refresh refresh'' where
  intent := ⟨same'.intent.1.trans same.intent.1, same'.intent.2.trans same.intent.2⟩
  cosigner := same'.cosigner.trans same.cosigner
  deletes := by
    have first := same.deletes
    have second := same'.deletes
    revert first second
    rcases refresh.deleteIntent with _ | d <;> rcases refresh'.deleteIntent with _ | d' <;>
      rcases refresh''.deleteIntent with _ | d'' <;> simp
    rintro ⟨m, t⟩ ⟨m', t'⟩
    exact ⟨m'.trans m, t'.trans t⟩

theorem sameRefresh_of_signRefresh (keeps : SigningLib.KeepsTransactions S)
    (signed : signRefresh S refresh keypair = .ok refresh') : SameRefresh refresh refresh' := by
  obtain ⟨proof, forfeitPsbts, deleteIntent, signs, deletes, rfl⟩ :=
    signRefresh_eq_ok_iff.mp signed
  refine ⟨⟨rfl, (keeps _ _ _ _ _ signs).1.1⟩, rfl, Interaction.rel_imp deletes ?_⟩
  rintro delete _ _ ⟨proof, signs', rfl⟩
  obtain ⟨⟨proof', rest⟩, signs', ⟨⟩⟩ := Results.bind_eq_ok_iff.mp signs'
  exact ⟨rfl, (keeps _ _ _ _ _ (printed_eq_ok_iff.mp signs')).1.1⟩

theorem wellFormed_of_signRefresh (keeps : SigningLib.KeepsTransactions S)
    (signed : signRefresh S refresh keypair = .ok refresh') (wellFormed : WellFormed refresh) :
    WellFormed refresh' := by
  obtain ⟨proof, forfeitPsbts, deleteIntent, signs, deletes, rfl⟩ :=
    signRefresh_eq_ok_iff.mp signed
  obtain ⟨shape, shapes⟩ := keeps _ _ _ _ _ signs
  refine ⟨shape.wellFormed wellFormed.intent, fun psbt member => ?_, fun delete present => ?_⟩
  · obtain ⟨i, bound, rfl⟩ := List.getElem_of_mem member
    obtain ⟨lengths, same⟩ := List.forall₂_iff_get.mp shapes
    have bound' : i < refresh.forfeitPsbts.length := lengths ▸ bound
    exact (same i bound bound').wellFormed (wellFormed.forfeits _ (List.getElem_mem bound'))
  · obtain rfl : deleteIntent = some delete := present
    cases here : refresh.deleteIntent with
    | none =>
        rw [here] at deletes
        cases deletes
    | some before =>
        rw [here] at deletes
        obtain ⟨proof, signs', rfl⟩ := Option.rel_some_some.mp deletes
        obtain ⟨⟨proof', rest⟩, signs', ⟨⟩⟩ := Results.bind_eq_ok_iff.mp signs'
        exact (keeps _ _ _ _ _ (printed_eq_ok_iff.mp signs')).1.wellFormed
          (wellFormed.deletes before here)

/-- **Nothing but signatures is added.** -/
theorem sameRefresh_of_signInTurn (keeps : SigningLib.KeepsTransactions S)
    {keypairs : List Keypair} (signed : signRefreshInTurn S refresh keypairs = .ok refresh')
    (wellFormed : WellFormed refresh) : SameRefresh refresh refresh' ∧ WellFormed refresh' := by
  induction keypairs generalizing refresh with
  | nil =>
      cases signed
      exact ⟨.refl _, wellFormed⟩
  | cons keypair keypairs ih =>
      obtain ⟨refresh₁, first, rest⟩ := Results.bind_eq_ok_iff.mp signed
      obtain ⟨same, wellFormed'⟩ := ih rest (wellFormed_of_signRefresh keeps first wellFormed)
      exact ⟨(sameRefresh_of_signRefresh keeps first).trans same, wellFormed'⟩

theorem SameRefresh.checkDeleteProof (same : SameRefresh refresh refresh') :
    Refresh.checkDeleteProof refresh' = Refresh.checkDeleteProof refresh := by
  have outpoints {intent intent' : Intent L} (same : SameIntent intent intent') :
      inputOutpoints intent' = inputOutpoints intent := by
    rw [inputOutpoints, same.2, inputOutpoints]
  have deletes := same.deletes
  rw [Refresh.checkDeleteProof, Refresh.checkDeleteProof]
  revert deletes
  rcases refresh.deleteIntent with _ | d <;> rcases refresh'.deleteIntent with _ | d' <;> simp
  intro here
  rw [ensureSameInputs, outpoints same.intent, outpoints here, ensureSameInputs]

/-! ## Signing in turn -/

/-- **Signing the texts in turn signs the refresh in turn.** -/
theorem signInTurn_proofTexts (trips : B.PsbtRoundTrips) (keeps : SigningLib.KeepsTransactions S)
    (wellFormed : WellFormed refresh) {secretKeys : List String} :
    signInTurn B S (proofTexts B refresh) secretKeys = some (.ok texts) ↔
      ∃ keypairs refresh',
        List.Forall₂ (fun secret keypair => keypairOf S secret = some keypair)
          secretKeys keypairs ∧
        signRefreshInTurn S refresh keypairs = .ok refresh' ∧ texts = proofTexts B refresh' := by
  induction secretKeys generalizing refresh with
  | nil =>
      constructor
      · rintro ⟨⟩
        exact ⟨[], refresh, .nil, rfl, rfl⟩
      · rintro ⟨_, _, ⟨⟩, ⟨⟩, rfl⟩
        rfl
  | cons secret secretKeys ih =>
      rw [signInTurn, List.foldlM_cons, Checked.bind_eq_ok_iff]
      constructor
      · rintro ⟨next, first, rest⟩
        obtain ⟨keypair, parsed⟩ := exists_keypair_of_rbSignRefresh first
        obtain ⟨refresh₁, signed, rfl⟩ :=
          (rbSignRefresh_proofTexts trips parsed wellFormed).mp first
        have wellFormed₁ := wellFormed_of_signRefresh keeps signed wellFormed
        obtain ⟨keypairs, refresh', keys, signed', rfl⟩ := (ih wellFormed₁).mp rest
        refine ⟨keypair :: keypairs, refresh', .cons parsed keys, ?_, rfl⟩
        exact Results.bind_eq_ok_iff.mpr ⟨refresh₁, signed, signed'⟩
      · rintro ⟨_, refresh', keys, signed, rfl⟩
        cases keys with
        | cons parsed keys =>
            obtain ⟨refresh₁, first, rest⟩ := Results.bind_eq_ok_iff.mp signed
            have wellFormed₁ := wellFormed_of_signRefresh keeps first wellFormed
            exact ⟨_, (rbSignRefresh_proofTexts trips parsed wellFormed).mpr ⟨refresh₁, first, rfl⟩,
              (ih wellFormed₁).mpr ⟨_, refresh', keys, rest, rfl⟩⟩

/-! ## What is read back -/

/-- The text of a message is the text of that message. -/
def TextLib.RoundTrips (X : TextLib L) : Prop :=
  ∀ message text, X.serializeMessage message = .ok text → X.messageFromStr text = .ok message

/-- The delete proof, if there is one, goes with a delete message. -/
def Deletes (X : TextLib L) (refresh : RefreshIntent L) : Prop :=
  ∀ delete, refresh.deleteIntent = some delete → X.isDelete delete.message = true

theorem parseDeleteIntent_proofTexts (trips : B.PsbtRoundTrips) (messages : X.RoundTrips)
    (deletes : Deletes X refresh) (same : SameRefresh refresh refresh')
    (wellFormed : WellFormed refresh') {message : Option String}
    (written : messageText X refresh.deleteIntent = .ok message) :
    parseDeleteIntent B X (proofTexts B refresh').deleteProof message =
      .ok refresh'.deleteIntent := by
  have rel := same.deletes
  have encoded := wellFormed.deletes
  revert deletes written rel encoded
  rw [Deletes, proofTexts]
  rcases refresh.deleteIntent with _ | delete <;>
    rcases refresh'.deleteIntent with _ | ⟨proof', message'⟩ <;> intro deletes written rel encoded
  · cases written
    rfl
  · cases rel
  · cases rel
  · obtain ⟨rfl, _⟩ := Option.rel_some_some.mp rel
    obtain ⟨text, serialized, ⟨⟩⟩ := Results.bind_eq_ok_iff.mp written
    have serialized := ofDisplay_eq_ok_iff.mp serialized
    refine Results.bind_eq_ok_iff.mpr
      ⟨_, ofDisplay_eq_ok_iff.mpr (messages _ _ serialized), ?_⟩
    refine Results.bind_eq_ok_iff.mpr ⟨(), ensure_eq_ok_iff.mpr (deletes delete rfl), ?_⟩
    exact Results.bind_eq_ok_iff.mpr
      ⟨proof', psbtFromBase64_psbtToBase64 trips (encoded _ rfl), rfl⟩

/-- **What is read back is what was signed.** -/
theorem readRefresh_proofTexts (trips : B.PsbtRoundTrips) (messages : X.RoundTrips)
    (deletes : Deletes X refresh) (same : SameRefresh refresh refresh')
    (wellFormed : WellFormed refresh') {texts : RefreshTexts}
    (written : refreshTexts B X refresh = .ok texts)
    (parsed : keypairOf S secretKeyHex = some keypair)
    (cosigner : refresh.refreshCosignerPk = keypair.publicKey) :
    readRefresh B S X (proofTexts B refresh') texts.intentMessage texts.deleteMessage
      secretKeyHex = some (.ok (refresh', keypair)) := by
  obtain ⟨intentMessage, serialized, written⟩ := Results.bind_eq_ok_iff.mp written
  obtain ⟨deleteMessage, written', rest⟩ := Results.bind_eq_ok_iff.mp written
  cases rest
  have serialized := ofDisplay_eq_ok_iff.mp serialized
  refine Checked.bind_eq_ok_iff.mpr ⟨refresh'.deleteIntent, Checked.liftExcept_eq_ok_iff.mpr
    (parseDeleteIntent_proofTexts trips messages deletes same wellFormed written'), ?_⟩
  refine Checked.bind_eq_ok_iff.mpr ⟨_, Checked.liftExcept_eq_ok_iff.mpr
    (psbtFromBase64_psbtToBase64 trips wellFormed.intent), ?_⟩
  refine Checked.bind_eq_ok_iff.mpr ⟨refresh.intent.message, Checked.liftExcept_eq_ok_iff.mpr
    (ofDisplay_eq_ok_iff.mpr (messages _ _ serialized)), ?_⟩
  refine Checked.bind_eq_ok_iff.mpr ⟨_, Checked.liftExcept_eq_ok_iff.mpr
    (psbtsFromBase64_map trips wellFormed.forfeits), ?_⟩
  refine Checked.bind_eq_ok_iff.mpr ⟨keypair, returned_eq_some_iff.mp parsed, ?_⟩
  obtain ⟨⟨proof', message'⟩, forfeits', cosigner', deletes'⟩ := refresh'
  obtain ⟨⟨message, _⟩, cosigner'', _⟩ := same
  cases message
  cases cosigner''
  rw [← cosigner]
  rfl

/-! ## The way through -/

variable (A) in
/-- What is built is well-formed. -/
structure BuildsWellFormed : Prop where
  intents : ∀ {inputs outputs message intent}, A.makeIntent inputs outputs message = .ok intent →
    intent.proof.WellFormed
  delegates : ∀ {inputs outputs cosignerPk forfeitAddress dust delegate},
    A.prepareDelegatePsbts inputs outputs cosignerPk forfeitAddress dust = .ok delegate →
    delegate.intent.proof.WellFormed ∧ ∀ psbt ∈ delegate.forfeitPsbts, psbt.WellFormed

variable (A X) in
/-- What is documented of the functions that build the proofs. A proof spends the inputs of its
intent, after an input of its own. -/
structure BuildsProofs : Prop extends BuildsWellFormed A where
  makeIntent : ∀ {inputs outputs message intent}, A.makeIntent inputs outputs message = .ok intent →
    intent.message = message ∧ (inputOutpoints intent).Perm (inputs.map (·.outpoint))
  prepareDelegatePsbts : ∀ {inputs outputs cosignerPk forfeitAddress dust delegate},
    A.prepareDelegatePsbts inputs outputs cosignerPk forfeitAddress dust = .ok delegate →
    delegate.delegateCosignerPk = cosignerPk ∧
      (inputOutpoints delegate.intent).Perm (inputs.map (·.outpoint))
  deleteMessage : ∀ expireAt, X.isDelete (A.deleteMessage expireAt) = true

/-- A refresh that can be handed out. -/
structure Prepared (X : TextLib L) (cosignerPk : PublicKey) (refresh : RefreshIntent L) : Prop where
  cosigner : refresh.refreshCosignerPk = cosignerPk
  covers : Refresh.checkDeleteProof refresh = .ok ()
  deletes : Deletes X refresh
  wellFormed : WellFormed refresh

theorem wellFormed_of_prepareRefreshResolved (builders : BuildsWellFormed A) {overflowChecks : Bool}
    {clock : Option Nat} {contract : EscrowContract B T} {inputs : List (RefreshInput B T)}
    {set : SignerSet} {cosignerPk : PublicKey} {info : A.ServerInfo}
    (prepared : prepareRefreshResolved overflowChecks clock contract inputs set cosignerPk info =
      some (.ok refresh)) : WellFormed refresh := by
  obtain ⟨intentInputs, _, prepared⟩ := Checked.bind_eq_ok_iff.mp prepared
  obtain ⟨total, _, prepared⟩ := Checked.bind_eq_ok_iff.mp prepared
  obtain ⟨output, _, prepared⟩ := Checked.bind_eq_ok_iff.mp prepared
  obtain ⟨deletion, made, prepared⟩ := Checked.bind_eq_ok_iff.mp prepared
  obtain ⟨delegate, built, rest⟩ := Checked.bind_eq_ok_iff.mp prepared
  cases rest
  obtain ⟨sinceEpoch, _, made⟩ := Results.bind_eq_ok_iff.mp (Checked.liftExcept_eq_ok_iff.mp made)
  have made := ofDisplay_eq_ok_iff.mp (withContext_eq_ok_iff.mp made)
  have built := ofDisplay_eq_ok_iff.mp
    (withContext_eq_ok_iff.mp (Checked.liftExcept_eq_ok_iff.mp built))
  obtain ⟨intent, forfeits⟩ := builders.delegates built
  refine ⟨intent, forfeits, ?_⟩
  rintro _ ⟨⟩
  exact builders.intents made

/-- What is prepared has two proofs over the same inputs. -/
theorem prepared_of_prepareRefreshResolved (builders : BuildsProofs A X) {overflowChecks : Bool}
    {clock : Option Nat} {contract : EscrowContract B T} {inputs : List (RefreshInput B T)}
    {set : SignerSet} {cosignerPk : PublicKey} {info : A.ServerInfo}
    (prepared : prepareRefreshResolved overflowChecks clock contract inputs set cosignerPk info =
      some (.ok refresh)) : Prepared X cosignerPk refresh := by
  have wellFormed := wellFormed_of_prepareRefreshResolved builders.toBuildsWellFormed prepared
  obtain ⟨intentInputs, _, prepared⟩ := Checked.bind_eq_ok_iff.mp prepared
  obtain ⟨total, _, prepared⟩ := Checked.bind_eq_ok_iff.mp prepared
  obtain ⟨output, _, prepared⟩ := Checked.bind_eq_ok_iff.mp prepared
  obtain ⟨deletion, made, prepared⟩ := Checked.bind_eq_ok_iff.mp prepared
  obtain ⟨delegate, built, rest⟩ := Checked.bind_eq_ok_iff.mp prepared
  cases rest
  have made := Checked.liftExcept_eq_ok_iff.mp made
  obtain ⟨sinceEpoch, _, made⟩ := Results.bind_eq_ok_iff.mp made
  have made := ofDisplay_eq_ok_iff.mp (withContext_eq_ok_iff.mp made)
  have built := ofDisplay_eq_ok_iff.mp
    (withContext_eq_ok_iff.mp (Checked.liftExcept_eq_ok_iff.mp built))
  obtain ⟨message, covers⟩ := builders.makeIntent made
  obtain ⟨cosigner, covers'⟩ := builders.prepareDelegatePsbts built
  refine ⟨cosigner, ?_, ?_, wellFormed⟩
  · refine ensure_eq_ok_iff.mpr (beq_iff_eq.mpr ?_)
    exact sorted_eq_sorted_iff.mpr (covers'.trans covers.symm)
  · rintro _ ⟨⟩
    rw [message]
    exact builders.deleteMessage _

/-- The caller keeps the delete proof, or leaves it aside. -/
def kept (cleanup : Bool) (refresh : RefreshIntent L) : RefreshIntent L :=
  if cleanup then refresh else { refresh with deleteIntent := none }

def RefreshTexts.kept (cleanup : Bool) (texts : RefreshTexts) : RefreshTexts :=
  if cleanup then texts else { texts with deleteProof := none, deleteMessage := none }

/-- What is signed. -/
def RefreshTexts.proofs (texts : RefreshTexts) : ProofTexts where
  intentProof := texts.intentProof
  forfeitPsbts := texts.forfeitPsbts
  deleteProof := texts.deleteProof

theorem proofs_refreshTexts {texts : RefreshTexts}
    (written : refreshTexts B X refresh = .ok texts) : texts.proofs = proofTexts B refresh := by
  obtain ⟨_, _, written⟩ := Results.bind_eq_ok_iff.mp written
  obtain ⟨_, _, ⟨⟩⟩ := Results.bind_eq_ok_iff.mp written
  rfl

theorem refreshTexts_kept {texts : RefreshTexts} (written : refreshTexts B X refresh = .ok texts)
    (cleanup : Bool) : refreshTexts B X (kept cleanup refresh) = .ok (texts.kept cleanup) := by
  cases cleanup with
  | true => exact written
  | false =>
      obtain ⟨intentMessage, serialized, written⟩ := Results.bind_eq_ok_iff.mp written
      obtain ⟨_, _, ⟨⟩⟩ := Results.bind_eq_ok_iff.mp written
      exact Results.bind_eq_ok_iff.mpr ⟨intentMessage, serialized, rfl⟩

theorem Prepared.kept {cosignerPk : PublicKey} (prepared : Prepared X cosignerPk refresh)
    (cleanup : Bool) : Prepared X cosignerPk (kept cleanup refresh) := by
  cases cleanup with
  | true => exact prepared
  | false =>
      exact ⟨prepared.cosigner, rfl, nofun, prepared.wellFormed.intent,
        prepared.wellFormed.forfeits, nofun⟩

/-- **A refresh through the Ruby API is a refresh.** What a caller gets from `prepareRefresh`,
keeps with or without the delete proof, has signed by any parties in turn and gives to
`refreshEscrow` runs the ceremony of the refresh that the library itself would have signed with
their keypairs, and its delete proof covers its inputs. -/
theorem refresh_through_texts (trips : B.PsbtRoundTrips) (messages : X.RoundTrips)
    (keeps : SigningLib.KeepsTransactions S) (builders : BuildsProofs A X)
    {overflowChecks : Bool} {clock : Option Nat} {client : Lookup.EscrowClient A}
    {contract : EscrowContract B T} {vtxosData : List (String × UInt64 × Bool)}
    {signerSet cosignerSkHex : String} {texts : RefreshTexts}
    (prepared : prepareRefresh B S X overflowChecks clock client contract vtxosData signerSet
      cosignerSkHex = some (.ok texts)) :
    ∃ vtxos set refresh cosignerKp,
      Lookup.prepareRefresh overflowChecks clock client contract vtxos set cosignerKp.publicKey =
        some (.ok refresh) ∧
      ∀ (cleanup : Bool) (secretKeys : List String) (signed : ProofTexts),
        signInTurn B S (texts.kept cleanup).proofs secretKeys = some (.ok signed) ↔
          ∃ keypairs refresh',
            List.Forall₂ (fun secret keypair => keypairOf S secret = some keypair)
              secretKeys keypairs ∧
            signRefreshInTurn S (kept cleanup refresh) keypairs = .ok refresh' ∧
            signed = proofTexts B refresh' ∧
            Refresh.checkDeleteProof refresh' = .ok () ∧
            ∀ statusText client', refreshEscrow B S X statusText client' signed
                (texts.kept cleanup).intentMessage (texts.kept cleanup).deleteMessage
                cosignerSkHex =
              some (.ok (B.txidToString <$>
                Refresh.refreshEscrow B statusText client' refresh' cosignerKp)) := by
  obtain ⟨vtxos, _, prepared⟩ := Checked.bind_eq_ok_iff.mp prepared
  obtain ⟨set, _, prepared⟩ := Checked.bind_eq_ok_iff.mp prepared
  obtain ⟨cosignerKp, parsed, prepared⟩ := Checked.bind_eq_ok_iff.mp prepared
  obtain ⟨refresh, made, written⟩ := Checked.bind_eq_ok_iff.mp prepared
  have parsed := returned_eq_some_iff.mpr parsed
  have written := Checked.liftExcept_eq_ok_iff.mp written
  refine ⟨vtxos, set, refresh, cosignerKp, made, fun cleanup secretKeys signed => ?_⟩
  obtain ⟨⟨info, inputs⟩, _, resolved⟩ := Checked.bind_eq_ok_iff.mp made
  have fit := (prepared_of_prepareRefreshResolved builders resolved).kept cleanup
  have written := refreshTexts_kept written cleanup
  rw [proofs_refreshTexts written, signInTurn_proofTexts trips keeps fit.wellFormed]
  constructor
  · rintro ⟨keypairs, refresh', keys, signs, rfl⟩
    obtain ⟨same, wellFormed⟩ := sameRefresh_of_signInTurn keeps signs fit.wellFormed
    refine ⟨keypairs, refresh', keys, signs, rfl, same.checkDeleteProof.trans fit.covers,
      fun statusText client' => ?_⟩
    exact Checked.bind_eq_ok_iff.mpr ⟨_, readRefresh_proofTexts trips messages fit.deletes same
      wellFormed written parsed fit.cosigner, rfl⟩
  · rintro ⟨keypairs, refresh', keys, signs, rfl, _⟩
    exact ⟨keypairs, refresh', keys, signs, rfl⟩

/-! ### A sample -/

open Lookup.Sample

open Classical in
/-- What has this text. -/
noncomputable def readBack {α : Type} (text : α → String) (s : String) : Except String α :=
  if known : ∃ a, text a = s then .ok known.choose else .error "malformed"

theorem readBack_self {α : Type} {text : α → String} (injective : Function.Injective text) (a : α) :
    readBack text (text a) = .ok a := by
  have known : ∃ b, text b = text a := ⟨a, rfl⟩
  rw [readBack, dif_pos known, injective known.choose_spec]

theorem colon_notMem_toLowerHex (bytes : List UInt8) : ':' ∉ (toLowerHex bytes).toList := by
  intro member
  obtain ⟨i, same⟩ := exists_digitChar_of_mem_toLowerHex member
  exact absurd same (by revert i; decide)

/-- The text of an outpoint is split at its colon. -/
theorem outPointText_injective : Function.Injective (outPointText BitcoinLib.reference) := by
  rintro ⟨txid, vout⟩ ⟨txid', vout'⟩ same
  have before (txid : Txid) (rest : List Char) :
      ((BitcoinLib.reference.txidToString txid).toList ++ ':' :: rest).takeWhile (· ≠ ':') =
        (BitcoinLib.reference.txidToString txid).toList := by
    rw [List.takeWhile_append_of_pos]
    · simp
    · intro c member
      refine decide_eq_true ?_
      rintro rfl
      exact colon_notMem_toLowerHex _ member
  have split (outpoint : OutPoint) : (outPointText BitcoinLib.reference outpoint).toList =
      (BitcoinLib.reference.txidToString outpoint.txid).toList ++
        ':' :: (Nat.repr outpoint.vout.toNat).toList := by
    simp only [outPointText, String.toList_append, List.append_assoc]
    rfl
  have same := congrArg String.toList same
  rw [split, split] at same
  have txids := congrArg (List.takeWhile (· ≠ ':')) same
  rw [before, before] at txids
  rw [txids] at same
  have vouts := (List.cons.inj (List.append_cancel_left same)).2
  have trips := BitcoinLib.txidRoundTrips_reference
  have txid_eq : txid = txid' := by
    have parsed := trips txid
    rw [String.toList_injective txids, trips txid'] at parsed
    exact (Except.ok.inj parsed).symm
  have vout_eq : vout = vout' := by
    have value := congrArg (fun digits => Nat.ofDigitChars 10 digits 0) vouts
    simpa [Nat.toList_repr, UInt32.toNat_inj] using value
  rw [txid_eq, vout_eq]

/-- Texts for the one message of the reference library, and for all outpoints. -/
noncomputable def textLib : TextLib BatchLib.reference where
  parseOutPoint := readBack (outPointText BitcoinLib.reference)
  serializeMessage _ := .ok "{}"
  messageFromStr text := if text = "{}" then .ok () else .error "expected an object"
  isDelete _ := true

theorem insertSigs_sameShape (psbt : Psbt) (index : Nat) (leafHash : TapLeafHash)
    (sigs : List (SchnorrSignature × XOnlyPublicKey)) :
    (psbt.insertSigs index leafHash sigs).SameShape psbt := by
  rw [Psbt.insertSigs]
  induction sigs generalizing psbt with
  | nil => exact .refl psbt
  | cons sig sigs ih => exact (ih _).trans (psbt.insertSig_sameShape ..)

theorem keepsTransactions_signing (B : BitcoinLib) :
    SigningLib.KeepsTransactions (ArkadeEscrow.Sample.signing B) := by
  intro signer proof forfeitPsbts proof' forfeitPsbts' signed
  simp only [ArkadeEscrow.Sample.signing] at signed
  split at signed
  · cases signed
    refine ⟨insertSigs_sameShape .., ?_⟩
    rw [List.forall₂_map_left_iff, List.forall₂_same]
    exact fun psbt _ => insertSigs_sameShape ..
  · cases signed

theorem wellFormed_proof (inputs : List IntentInput) (outputs : List IntentOutput) :
    (Lookup.Sample.proof inputs outputs).proof.WellFormed :=
  ⟨by simp [proof, intentProof], by simp [proof, intentProof]⟩

theorem buildsWellFormed_proving : BuildsWellFormed proving where
  intents {inputs outputs message intent} made := by
    cases made
    exact wellFormed_proof inputs outputs
  delegates {inputs outputs cosignerPk forfeitAddress dust delegate} built := by
    cases built
    exact ⟨wellFormed_proof inputs outputs, nofun⟩

theorem buildsProofs_proving : BuildsProofs proving textLib where
  toBuildsWellFormed := buildsWellFormed_proving
  makeIntent {inputs outputs message intent} made := by
    cases made
    refine ⟨rfl, .of_eq ?_⟩
    simp [inputOutpoints, proof, intentProof, Function.comp_def]
  prepareDelegatePsbts {inputs outputs cosignerPk forfeitAddress dust delegate} built := by
    cases built
    refine ⟨rfl, .of_eq ?_⟩
    simp [inputOutpoints, proof, intentProof, Function.comp_def]
  deleteMessage _ := rfl

theorem exists_refreshTexts : ∃ texts,
    prepareRefresh BitcoinLib.reference (ArkadeEscrow.Sample.signing BitcoinLib.reference) textLib
      false (some 0) lister oldContract
      [(outPointText BitcoinLib.reference ⟨⟨1⟩, 0⟩, 1000, false)] "seller_buyer"
      (secretText ⟨6⟩) = some (.ok texts) := by
  have funds : ∀ vtxo ∈ [requested], vtxo.outpoint = held.outpoint := by
    simp [requested, held]
  obtain ⟨refresh, prepared⟩ := exists_prepareRefresh funds
  obtain ⟨texts, written⟩ : ∃ texts, refreshTexts BitcoinLib.reference textLib refresh =
      .ok texts := by
    rcases refresh with ⟨intent, forfeits, cosigner, _ | delete⟩ <;> exact ⟨_, rfl⟩
  have read : parseRefreshVtxo textLib (outPointText BitcoinLib.reference ⟨⟨1⟩, 0⟩, 1000, false) =
      .ok requested := by
    have parsed : textLib.parseOutPoint (outPointText BitcoinLib.reference ⟨⟨1⟩, 0⟩) =
        .ok ⟨⟨1⟩, 0⟩ := readBack_self outPointText_injective _
    rw [parseRefreshVtxo, parsed]
    rfl
  refine ⟨texts, Checked.bind_eq_ok_iff.mpr ⟨[requested], Checked.liftExcept_eq_ok_iff.mpr
    (Results.mapM_eq_ok_iff.mpr (.cons read .nil)), ?_⟩⟩
  refine Checked.bind_eq_ok_iff.mpr ⟨.sellerBuyer, rfl, ?_⟩
  refine Checked.bind_eq_ok_iff.mpr ⟨ArkadeEscrow.Sample.party ⟨6⟩,
    returned_eq_some_iff.mp (keypairOf_secretText _ _), ?_⟩
  exact Checked.bind_eq_ok_iff.mpr ⟨refresh, prepared, Checked.liftExcept_eq_ok_iff.mpr written⟩

theorem refresh_through_texts_sample :
    ∃ (texts : RefreshTexts) (refresh : RefreshIntent BatchLib.reference) (cosignerKp : Keypair),
      ∀ (secretKeys : List String) (signed : ProofTexts),
        signInTurn BitcoinLib.reference (ArkadeEscrow.Sample.signing BitcoinLib.reference)
            (texts.kept true).proofs secretKeys = some (.ok signed) →
          ∃ keypairs refresh', signRefreshInTurn
              (ArkadeEscrow.Sample.signing BitcoinLib.reference) refresh keypairs =
                .ok refresh' ∧
            ∀ statusText client', refreshEscrow BitcoinLib.reference
                (ArkadeEscrow.Sample.signing BitcoinLib.reference) textLib statusText client'
                signed texts.intentMessage texts.deleteMessage (secretText ⟨6⟩) =
              some (.ok (BitcoinLib.reference.txidToString <$> Refresh.refreshEscrow
                BitcoinLib.reference statusText client' refresh' cosignerKp)) := by
  have messages : textLib.RoundTrips := by
    intro message text written
    cases written
    rfl
  obtain ⟨texts, prepared⟩ := exists_refreshTexts
  obtain ⟨_, _, refresh, cosignerKp, _, through⟩ := refresh_through_texts
    BitcoinLib.psbtRoundTrips_reference messages (keepsTransactions_signing _)
    buildsProofs_proving prepared
  refine ⟨texts, refresh, cosignerKp, fun secretKeys signed turns => ?_⟩
  obtain ⟨keypairs, refresh', _, signs, _, _, runs⟩ := (through true secretKeys signed).mp turns
  exact ⟨keypairs, refresh', signs, runs⟩

end Ruby
end ArkadeEscrow
