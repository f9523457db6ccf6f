import ArkadeEscrow.Client.Attempt
import ArkadeEscrow.Client.Commitment

/-!
# Where the parties' signatures go

The parties sign their own copies of the checkpoints. A submit sends what the caller passed
as unsigned checkpoints, on the fresh call and on every resumption alike, and nothing looks
at the signatures in there: `party_signatures_withheld_iff` says when the server gets none
before it has committed itself.

A finalize and an upgraded record hold the merge of the reply with the parties' copies, and
the merge starts from the reply: `party_signatures_kept_iff` says when every party's
signature is still in it.
-/

set_option autoImplicit false

namespace ArkadeEscrow

/-- The signature is recorded in the PSBT, at some input and under some key. -/
def Psbt.Carries (psbt : Psbt) (sig : TaprootSignature) : Prop :=
  ∃ index key, psbt.sigAt index key = some sig

namespace Client

open Interaction

variable {B : BitcoinLib} {store : SpendStore}

/-! ## What a submit carries -/

/-- A signature of a party's copy. -/
def PartySigned (partyCps : List (List Psbt)) (sig : TaprootSignature) : Prop :=
  ∃ copies ∈ partyCps, ∃ copy ∈ copies, copy.Carries sig

/-- A submit carries no signature of a party, and a finalize, which does, comes only after
the server's commitment has been accepted. -/
def PartySignaturesWithheld (B : BitcoinLib) (partyCps : List (List Psbt)) (h : History) :
    Ask → Prop
  | .submit _ checkpointTxs =>
      ∀ cp ∈ checkpointTxs, ∀ sig, PartySigned partyCps sig → ¬ cp.Carries sig
  | .finalize arkTxid _ => ∃ own serverSigned, Committed B h own serverSigned arkTxid
  | _ => True

/-- No call of the attempt gives the server a party's signature before it has committed. -/
def SignaturesWithheld (B : BitcoinLib) (store : SpendStore) (id : String) (arkTx : Psbt)
    (unsignedCheckpoints : List Psbt) (partyCps : List (List Psbt)) : Prop :=
  ∀ (run : CallRun B store) (found : Except Error (Option PendingSpend)) outcome,
    Attempt B id arkTx unsignedCheckpoints partyCps outcome run.call found →
    Found run.call run.events found →
    Guarded (PartySignaturesWithheld B partyCps) run.events

/-- The fresh call can submit what it was given. -/
theorem SignaturesWithheld.clean {id : String} {arkTx : Psbt} {unsignedCheckpoints : List Psbt}
    {partyCps : List (List Psbt)}
    (withheld : SignaturesWithheld B store id arkTx unsignedCheckpoints partyCps)
    (valid : validateCheckpoints unsignedCheckpoints partyCps = .ok ()) :
    ∀ cp ∈ unsignedCheckpoints, ∀ sig, PartySigned partyCps sig → ¬ cp.Carries sig := by
  have source : Source B (.spend id arkTx unsignedCheckpoints partyCps) (.ok none) _ arkTx
    unsignedCheckpoints partyCps := .first valid (Vector.replicate 16 0)
  obtain ⟨h, firstAttempt, loaded, _, emits⟩ := source.emits store
  have run := emits _ emits_submit
  have loaded' := List.IsPrefix.trans loaded
    (List.prefix_append h [.sent (.submit arkTx unsignedCheckpoints)])
  exact withheld ⟨_, _, run⟩ _ (.elapsed 0) .first loaded' h (.submit arkTx unsignedCheckpoints) []
    rfl

/-- **When the parties' checkpoint signatures are withheld until the server has committed**:
for well-formed arguments that are accepted, in all runs of all calls of the attempt, if and only
if none of the checkpoints passed as unsigned carries one. -/
theorem party_signatures_withheld_iff (trips : B.PsbtRoundTrips)
    {id : String} {arkTx : Psbt} {unsignedCheckpoints : List Psbt} {partyCps : List (List Psbt)}
    (wellFormed : Call.WellFormed (.spend id arkTx unsignedCheckpoints partyCps))
    (valid : validateCheckpoints unsignedCheckpoints partyCps = .ok ()) :
    SignaturesWithheld B store id arkTx unsignedCheckpoints partyCps ↔
      ∀ cp ∈ unsignedCheckpoints, ∀ sig, PartySigned partyCps sig → ¬ cp.Carries sig := by
  constructor
  · exact fun withheld => withheld.clean valid
  · intro clean run found outcome attempt loaded before request after split
    have justified := call_justified run.emits before request after split
    cases request with
    | submit arkTx' checkpointTxs =>
        obtain ⟨found', pending, partyCps', submits⟩ := justified
        have same : found' = found := by
          have prefixed : before <+: run.events := split ▸ List.prefix_append _ _
          exact Found.unique (List.IsPrefix.trans submits.loaded prefixed) loaded
        subst same
        obtain ⟨⟨_, rfl, _⟩, _⟩ := attempt.source_eq trips wellFormed submits.source
        exact clean
    | finalize arkTxid finalCheckpoints =>
        obtain ⟨pending, finalizes⟩ := justified
        exact finalizes.committed
    | _ => trivial

/-- A signature of the sample's seller on a checkpoint. -/
noncomputable def sellerSigs (sighashType : TapSighashType) : BTreeMap SigKey TaprootSignature :=
  (∅ : BTreeMap SigKey TaprootSignature).insert (Sample.options.seller, Sample.leafHash)
    ⟨⟨0⟩, sighashType⟩

theorem sigAt_sellerSigs (sighashType : TapSighashType) :
    (Sample.checkpoint 1 (sellerSigs sighashType)).sigAt 0
      (Sample.options.seller, Sample.leafHash) = some ⟨⟨0⟩, sighashType⟩ := by
  simp [Psbt.sigAt, Sample.checkpoint, sellerSigs]

/-- A party that signs its own copy, and an unsigned checkpoint without signatures. -/
theorem party_signatures_withheld_sample :
    PartySigned [[Sample.checkpoint 1 (sellerSigs .default)]] ⟨⟨0⟩, .default⟩ ∧
      SignaturesWithheld BitcoinLib.reference ⟨true, true⟩ "escrow"
        (Sample.arkTx [Sample.checkpoint 1 ∅]) [Sample.checkpoint 1 ∅]
        [[Sample.checkpoint 1 (sellerSigs .default)]] := by
  have valid : validateCheckpoints [Sample.checkpoint 1 ∅]
      [[Sample.checkpoint 1 (sellerSigs .default)]] = .ok () :=
    validateCheckpoints_eq_ok_iff.mpr ⟨by simp, by simp [Psbt.SameShape, Sample.checkpoint]⟩
  refine ⟨⟨_, List.mem_singleton_self _, _, List.mem_singleton_self _, _, _,
    sigAt_sellerSigs .default⟩, ?_⟩
  have wellFormed : Call.WellFormed (.spend "escrow" (Sample.arkTx [Sample.checkpoint 1 ∅])
      [Sample.checkpoint 1 ∅] [[Sample.checkpoint 1 (sellerSigs .default)]]) := by
    simp [Call.WellFormed]
  apply (party_signatures_withheld_iff BitcoinLib.psbtRoundTrips_reference wellFormed valid).mpr
  intro cp member sig _ carried
  obtain ⟨index, key, signed⟩ := carried
  obtain rfl := List.mem_singleton.mp member
  cases index with
  | zero => simp [Psbt.sigAt, Sample.checkpoint] at signed
  | succ index => simp [Psbt.sigAt, Sample.checkpoint] at signed

/-- The party's own copy is passed as the unsigned checkpoint, and submitted. -/
theorem party_signatures_not_always_withheld :
    ¬ ∀ (B : BitcoinLib) (store : SpendStore), B.PsbtRoundTrips →
      ∀ id arkTx unsignedCheckpoints partyCps,
        Call.WellFormed (.spend id arkTx unsignedCheckpoints partyCps) →
        validateCheckpoints unsignedCheckpoints partyCps = .ok () →
          SignaturesWithheld B store id arkTx unsignedCheckpoints partyCps := by
  intro always
  let cp := Sample.checkpoint 1 (sellerSigs .default)
  have valid : validateCheckpoints [cp] [[cp]] = .ok () :=
    validateCheckpoints_self (List.cons_ne_nil cp [])
  have wellFormed : Call.WellFormed (.spend "escrow" (Sample.arkTx [cp]) [cp] [[cp]]) := by
    simp [Call.WellFormed, cp]
  have withheld := always BitcoinLib.reference ⟨true, true⟩ BitcoinLib.psbtRoundTrips_reference
    "escrow" (Sample.arkTx [cp]) [cp] [[cp]] wellFormed valid
  have carried : cp.Carries ⟨⟨0⟩, .default⟩ := ⟨_, _, sigAt_sellerSigs .default⟩
  exact withheld.clean valid cp (List.mem_singleton_self cp) ⟨⟨0⟩, .default⟩
    ⟨_, List.mem_singleton_self _, cp, List.mem_singleton_self cp, carried⟩ carried

/-! ## What a finalize and an upgraded record hold -/

/-- Whatever a party signed at a position, the list holds that party's signature there. -/
def HoldsPartySignatures (partyCps : List (List Psbt)) (finalCheckpoints : List Psbt) : Prop :=
  ∀ copies ∈ partyCps, ∀ (position : Nat) (copy : Psbt), copies[position]? = some copy →
    ∀ index key sig, copy.sigAt index key = some sig →
      ∃ final : Psbt, finalCheckpoints[position]? = some final ∧ final.sigAt index key = some sig

/-- The parties' copies of a checkpoint agree on the signatures they share. -/
def PartiesAgree (partyCps : List (List Psbt)) : Prop :=
  ∀ copies ∈ partyCps, ∀ copies' ∈ partyCps, ∀ (position : Nat) (copy copy' : Psbt),
    copies[position]? = some copy → copies'[position]? = some copy' →
    ∀ index key sig sig', copy.sigAt index key = some sig → copy'.sigAt index key = some sig' →
      sig = sig'

/-- The reply leaves room for what the parties signed: it returns a checkpoint at each of
their positions, with nothing or the same signature in the place of each of theirs. -/
def LeavesRoom (partyCps : List (List Psbt)) (reply : SubmitReply) : Prop :=
  ∀ copies ∈ partyCps, ∀ (position : Nat) (copy : Psbt), copies[position]? = some copy →
    ∀ index key sig, copy.sigAt index key = some sig →
      ∃ cp : Psbt, reply.signedCheckpointTxs[position]? = some cp ∧
        ∀ planted, cp.sigAt index key = some planted → planted = sig

/-- What a finalize releases and what a record at stage `submitted` holds keeps the parties'
signatures. -/
def PartySignaturesKept (B : BitcoinLib) (partyCps : List (List Psbt)) : Ask → Prop
  | .finalize _ finalCheckpoints => HoldsPartySignatures partyCps finalCheckpoints
  | .save spend => spend.stage = .submitted → ∃ finalCheckpoints,
      decodeCheckpoints B "decoding persisted checkpoint PSBTs" spend.signedCheckpoints =
        .ok finalCheckpoints ∧ HoldsPartySignatures partyCps finalCheckpoints
  | _ => True

theorem mem_copiesAt {partyCps : List (List Psbt)} {position : Nat} {copy : Psbt} :
    copy ∈ copiesAt partyCps position ↔
      ∃ copies ∈ partyCps, copies[position]? = some copy :=
  List.mem_filterMap

/-- The first copy that carries a signature carries the one that all agree on. -/
theorem PartiesAgree.findSome?_sigAt {partyCps : List (List Psbt)} (agree : PartiesAgree partyCps)
    {copies : List Psbt} (member : copies ∈ partyCps) {position : Nat} {copy : Psbt}
    (present : copies[position]? = some copy) {index : Nat} {key : SigKey}
    {sig : TaprootSignature} (signed : copy.sigAt index key = some sig) :
    ((copiesAt partyCps position).findSome? fun other => other.sigAt index key) = some sig := by
  have here : copy ∈ copiesAt partyCps position := mem_copiesAt.mpr ⟨copies, member, present⟩
  obtain ⟨sig', found⟩ : ∃ sig', ((copiesAt partyCps position).findSome? fun other =>
      other.sigAt index key) = some sig' := by
    rw [← Option.isSome_iff_exists, List.findSome?_isSome_iff]
    exact ⟨copy, here, by simp [signed]⟩
  obtain ⟨other, listed, signed'⟩ := List.exists_of_findSome?_eq_some found
  obtain ⟨copies', member', present'⟩ := mem_copiesAt.mp listed
  have same := agree copies member copies' member' position copy other present present' index key
    sig sig' signed signed'
  rw [found, same]

/-- **The merge keeps the parties' signatures exactly when the reply leaves room for them.** -/
theorem Merges.holdsPartySignatures_iff {unsignedCheckpoints finalCheckpoints : List Psbt}
    {partyCps : List (List Psbt)} (agree : PartiesAgree partyCps) {reply : SubmitReply}
    (merges : Merges B unsignedCheckpoints partyCps reply finalCheckpoints) :
    HoldsPartySignatures partyCps finalCheckpoints ↔ LeavesRoom partyCps reply := by
  obtain ⟨count, positions⟩ := merges.mergedFrom
  constructor
  · intro holds copies member position copy present index key sig signed
    obtain ⟨final, last, kept⟩ := holds copies member position copy present index key sig signed
    have bound : position < reply.signedCheckpointTxs.length := by
      rw [← count]
      exact (List.getElem?_eq_some_iff.mp last).1
    have returned := List.getElem?_eq_getElem bound
    refine ⟨_, returned, fun planted there => ?_⟩
    have merged := (positions position _ final returned last).sigAt index key
    rw [kept, there, Option.some_or] at merged
    exact (Option.some.inj merged).symm
  · intro room copies member position copy present index key sig signed
    obtain ⟨cp, returned, planted⟩ := room copies member position copy present index key sig signed
    have bound : position < finalCheckpoints.length := by
      rw [count]
      exact (List.getElem?_eq_some_iff.mp returned).1
    have last := List.getElem?_eq_getElem bound
    refine ⟨_, last, ?_⟩
    rw [(positions position cp _ returned last).sigAt index key]
    cases there : cp.sigAt index key with
    | none => exact agree.findSome?_sigAt member present signed
    | some sig' => exact congrArg some (planted sig' there)

/-- Everything that the calls of the attempt finalize, or record at stage `submitted`, keeps
the parties' signatures. -/
def SignaturesKept (B : BitcoinLib) (store : SpendStore) (id : String) (arkTx : Psbt)
    (unsignedCheckpoints : List Psbt) (partyCps : List (List Psbt))
    (outcome : Outcome SubmitReply) : Prop :=
  ∀ (run : CallRun B store) (found : Except Error (Option PendingSpend)),
    Attempt B id arkTx unsignedCheckpoints partyCps outcome run.call found →
    Sees run.call run.events found outcome →
    ∀ request, .sent request ∈ run.events → PartySignaturesKept B partyCps request

/-- The fresh call can finalize the merge of the reply. -/
theorem SignaturesKept.room {id : String} {arkTx : Psbt} {unsignedCheckpoints : List Psbt}
    {partyCps : List (List Psbt)} {reply : SubmitReply}
    (kept : SignaturesKept B store id arkTx unsignedCheckpoints partyCps (.finished (.ok reply)))
    (valid : validateCheckpoints unsignedCheckpoints partyCps = .ok ())
    (agree : PartiesAgree partyCps) {canonical : Psbt} {finalCheckpoints : List Psbt}
    (verdict : Spend.verifyServerArkTxSig B arkTx reply.signedArkTx = .ok canonical)
    (merged : Merges B unsignedCheckpoints partyCps reply finalCheckpoints) :
    LeavesRoom partyCps reply := by
  have releases := releases_first id valid verdict merged
  obtain ⟨before, run, sees, _⟩ := releases.emits store
  have holds := kept ⟨_, _, run⟩ _ .first sees _ (List.mem_append_right _ List.mem_cons_self)
  exact (merged.holdsPartySignatures_iff agree).mp holds

/-- **When no party's signature is lost to the reply.** For accepted arguments whose copies
agree and an answer to the submit, all well-formed, everything that the calls of the attempt
finalize or record at stage `submitted` keeps the parties' signatures, if and only if a reply
that is co-signed and merges leaves room for them. -/
theorem party_signatures_kept_iff (trips : B.PsbtRoundTrips)
    {id : String} {arkTx : Psbt} {unsignedCheckpoints : List Psbt} {partyCps : List (List Psbt)}
    (wellFormed : Call.WellFormed (.spend id arkTx unsignedCheckpoints partyCps))
    (valid : validateCheckpoints unsignedCheckpoints partyCps = .ok ())
    (agree : PartiesAgree partyCps) {outcome : Outcome SubmitReply}
    (replied : ∀ reply, outcome = .finished (.ok reply) → reply.WellFormed) :
    SignaturesKept B store id arkTx unsignedCheckpoints partyCps outcome ↔
      ∀ reply, outcome = .finished (.ok reply) →
        (∃ canonical, Spend.verifyServerArkTxSig B arkTx reply.signedArkTx = .ok canonical) →
        (∃ finalCheckpoints, Merges B unsignedCheckpoints partyCps reply finalCheckpoints) →
        LeavesRoom partyCps reply := by
  constructor
  · rintro kept reply rfl ⟨canonical, verdict⟩ ⟨finalCheckpoints, merged⟩
    exact kept.room valid agree verdict merged
  · intro room run found attempt sees request member
    obtain ⟨before, after, split⟩ := List.append_of_mem member
    have emits := run.emits
    rw [split] at emits sees
    cases request with
    | finalize arkTxid finalCheckpoints =>
        obtain ⟨arkTx', releases, _⟩ := releases_of_sent emits sees
        obtain ⟨reply, canonical, answer, verdict, merged⟩ :=
          attempt.merged_of_releases trips wellFormed replied releases
        exact (merged.holdsPartySignatures_iff agree).mpr
          (room reply answer ⟨canonical, verdict⟩ ⟨finalCheckpoints, merged⟩)
    | save spend =>
        intro stage
        obtain ⟨reply, finalCheckpoints, answer, upgrades⟩ := upgrades_of_sent emits sees stage
        cases upgrades with
        | intro source passes =>
            obtain ⟨⟨rfl, rfl, rfl⟩, _⟩ := attempt.source_eq trips wellFormed source
            have encoded := passes.merged.wellFormed (replied reply answer)
            refine ⟨finalCheckpoints, decodeCheckpoints_map trips _ encoded, ?_⟩
            exact (passes.merged.holdsPartySignatures_iff agree).mpr
              (room reply answer ⟨_, passes.verified⟩ ⟨_, passes.merged⟩)
    | _ => trivial

/-- One party agrees with itself. -/
theorem partiesAgree_singleton (copies : List Psbt) : PartiesAgree [copies] := by
  intro copies₁ member₁ copies₂ member₂ position copy copy' present present' index key sig sig'
    signed signed'
  obtain rfl := List.mem_singleton.mp member₁
  obtain rfl := List.mem_singleton.mp member₂
  obtain rfl := Option.some.inj (present.symm.trans present')
  exact Option.some.inj (signed.symm.trans signed')

/-- The arbiter's copy of the checkpoint. -/
noncomputable def arbiterCopy : Psbt :=
  Sample.checkpoint 1 ((∅ : BTreeMap SigKey TaprootSignature).insert
    (Sample.options.arbiter, Sample.leafHash) ⟨⟨1⟩, .default⟩)

/-- Copies agree when the signatures under one key are all the same. -/
theorem partiesAgree_of_forall {partyCps : List (List Psbt)} (signature : SigKey → TaprootSignature)
    (same : ∀ copies ∈ partyCps, ∀ copy ∈ copies, ∀ index key sig,
      copy.sigAt index key = some sig → sig = signature key) : PartiesAgree partyCps := by
  intro copies member copies' member' position copy copy' present present' index key sig sig'
    signed signed'
  rw [same copies member copy (List.mem_of_getElem? present) index key sig signed,
    same copies' member' copy' (List.mem_of_getElem? present') index key sig' signed']

/-- Seller and arbiter have signed, and the reply returns the checkpoint with nothing under their
keys. -/
theorem party_signatures_kept_sample :
    PartySigned [[Sample.checkpoint 1 (sellerSigs .default)], [arbiterCopy]] ⟨⟨0⟩, .default⟩ ∧
      PartySigned [[Sample.checkpoint 1 (sellerSigs .default)], [arbiterCopy]] ⟨⟨1⟩, .default⟩ ∧
      SignaturesKept BitcoinLib.reference ⟨true, true⟩ "escrow"
        (Sample.arkTx [Sample.checkpoint 1 ∅]) [Sample.checkpoint 1 ∅]
        [[Sample.checkpoint 1 (sellerSigs .default)], [arbiterCopy]]
        (.finished (.ok ⟨Sample.cosigned [Sample.checkpoint 1 ∅], [Sample.checkpoint 1 ∅]⟩)) := by
  have valid : validateCheckpoints [Sample.checkpoint 1 ∅]
      [[Sample.checkpoint 1 (sellerSigs .default)], [arbiterCopy]] = .ok () :=
    validateCheckpoints_eq_ok_iff.mpr
      ⟨by simp, by simp [Psbt.SameShape, Sample.checkpoint, arbiterCopy]⟩
  have agree : PartiesAgree [[Sample.checkpoint 1 (sellerSigs .default)], [arbiterCopy]] := by
    refine partiesAgree_of_forall
      (fun key => ⟨if key.1 = Sample.options.seller then ⟨0⟩ else ⟨1⟩, .default⟩) ?_
    intro copies member copy here index key sig signed
    rcases List.mem_cons.mp member with rfl | member
    · obtain rfl := List.mem_singleton.mp here
      obtain ⟨⟨_, rfl⟩, rfl⟩ := Sample.sigAt_checkpoint_eq_some_iff.mp signed
      rfl
    · obtain rfl := List.mem_singleton.mp member
      obtain rfl := List.mem_singleton.mp here
      obtain ⟨⟨_, rfl⟩, rfl⟩ := Sample.sigAt_checkpoint_eq_some_iff.mp signed
      rfl
  have arbiter : arbiterCopy.Carries ⟨⟨1⟩, .default⟩ :=
    ⟨0, _, Sample.sigAt_checkpoint_eq_some_iff.mpr ⟨⟨rfl, rfl⟩, rfl⟩⟩
  refine ⟨⟨_, List.mem_cons_self, _, List.mem_singleton_self _, _, _, sigAt_sellerSigs .default⟩,
    ⟨_, List.mem_cons_of_mem _ List.mem_cons_self, _, List.mem_singleton_self _, arbiter⟩, ?_⟩
  have wellFormed : Call.WellFormed (.spend "escrow" (Sample.arkTx [Sample.checkpoint 1 ∅])
      [Sample.checkpoint 1 ∅] [[Sample.checkpoint 1 (sellerSigs .default)], [arbiterCopy]]) := by
    simp [Call.WellFormed, arbiterCopy]
  have replied : SubmitReply.WellFormed
      ⟨Sample.cosigned [Sample.checkpoint 1 ∅], [Sample.checkpoint 1 ∅]⟩ := wellFormed.2.1
  refine (party_signatures_kept_iff BitcoinLib.psbtRoundTrips_reference wellFormed valid agree
    (by rintro _ ⟨⟩; exact replied)).mpr ?_
  rintro reply ⟨⟩ _ _ copies member position copy present index key sig signed
  have first : position = 0 := by
    rcases List.mem_cons.mp member with rfl | member
    · exact Nat.lt_one_iff.mp (List.getElem?_eq_some_iff.mp present).1
    · obtain rfl := List.mem_singleton.mp member
      exact Nat.lt_one_iff.mp (List.getElem?_eq_some_iff.mp present).1
  subst first
  refine ⟨_, rfl, fun planted there => ?_⟩
  cases index with
  | zero => simp [Psbt.sigAt, Sample.checkpoint] at there
  | succ index => simp [Psbt.sigAt, Sample.checkpoint] at there

/-- The reply returns the checkpoint with another signature under the party's key. -/
theorem party_signatures_not_always_kept :
    ¬ ∀ (B : BitcoinLib) (store : SpendStore), B.PsbtRoundTrips →
      ∀ id arkTx unsignedCheckpoints partyCps,
        Call.WellFormed (.spend id arkTx unsignedCheckpoints partyCps) →
        validateCheckpoints unsignedCheckpoints partyCps = .ok () → PartiesAgree partyCps →
          ∀ outcome, (∀ reply, outcome = .finished (.ok reply) → reply.WellFormed) →
            SignaturesKept B store id arkTx unsignedCheckpoints partyCps outcome := by
  intro always
  let cp := Sample.checkpoint 1 ∅
  let copy := Sample.checkpoint 1 (sellerSigs .default)
  let planted := Sample.checkpoint 1 (sellerSigs .none)
  have valid : validateCheckpoints [cp] [[copy]] = .ok () :=
    validateCheckpoints_eq_ok_iff.mpr
      ⟨by simp, by simp [Psbt.SameShape, cp, copy, Sample.checkpoint]⟩
  have agree := partiesAgree_singleton [copy]
  have wellFormed : Call.WellFormed (.spend "escrow" (Sample.arkTx [cp]) [cp] [[copy]]) := by
    simp [Call.WellFormed, cp, copy]
  have replied : SubmitReply.WellFormed ⟨Sample.cosigned [cp], [planted]⟩ := by
    simp [SubmitReply.WellFormed, planted]
  have kept := always BitcoinLib.reference ⟨true, true⟩ BitcoinLib.psbtRoundTrips_reference
    "escrow" (Sample.arkTx [cp]) [cp] [[copy]] wellFormed valid agree
    (.finished (.ok ⟨Sample.cosigned [cp], [planted]⟩)) (by rintro _ ⟨⟩; exact replied)
  obtain ⟨finalCheckpoints, merged⟩ : ∃ finalCheckpoints, Merges BitcoinLib.reference [cp] [[copy]]
      ⟨Sample.cosigned [cp], [planted]⟩ finalCheckpoints := by
    refine exists_merges ?_ ?_ ?_
    · simp [cp, Sample.checkpoint]
    · simp [planted, Sample.checkpoint]
    · simp [Psbt.SameShape, planted, copy, Sample.checkpoint]
  have room := kept.room valid agree (Sample.verified_cosigned cp []) merged
  obtain ⟨cp', returned, same⟩ := room [copy] (List.mem_singleton_self _) 0 copy rfl 0 _ _
    (sigAt_sellerSigs .default)
  obtain rfl : planted = cp' := by simpa using returned
  have equal := same _ (sigAt_sellerSigs .none)
  simp at equal

end Client
end ArkadeEscrow
