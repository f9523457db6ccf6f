import ArkadeEscrow.Client.Merge
import ArkadeEscrow.Reference

/-!
# Signatures that are checked again and collected

A PSBT is its signatures and the rest (`Psbt.ext_sigs`). The co-signed PSBT differs from the
own copy in one signature, which is all that is taken from the server's reply; checking it
again gives it back, and it does not matter whether other signatures are merged in before or
after (`coSignature_stable`).

`merge_ark_tx_sigs` writes into its base. `mergeInto` does that step by step, and writes
nothing where it fails (`run_mergeInto`). Copies that agree where they share a key can be
merged in any order and any number of times, and what is collected is the union of their
signatures (`signatures_collected`).
-/

set_option autoImplicit false

open Std

namespace ArkadeEscrow

/-! ## A PSBT is its signatures and the rest -/

theorem PsbtInput.ext_sigs {a b : PsbtInput} (rest : a.stripSigs = b.stripSigs)
    (sigs : ∀ key : SigKey, a.tapScriptSigs[key]? = b.tapScriptSigs[key]?) : a = b := by
  obtain ⟨utxo, script, sigs₁, scripts⟩ := a
  obtain ⟨utxo', script', sigs₂, scripts'⟩ := b
  simp only [PsbtInput.stripSigs, PsbtInput.mk.injEq, true_and] at rest
  obtain ⟨rfl, rfl, rfl⟩ := rest
  exact congrArg (fun sigs => PsbtInput.mk utxo script sigs scripts) (ExtTreeMap.ext_getElem? sigs)

namespace Psbt

theorem ext_sigs {a b : Psbt} (rest : a.stripSigs = b.stripSigs)
    (sigs : ∀ index key, a.sigAt index key = b.sigAt index key) : a = b := by
  obtain ⟨unsignedTx, inputs⟩ := a
  obtain ⟨unsignedTx', inputs'⟩ := b
  simp only [stripSigs, Psbt.mk.injEq] at rest
  obtain ⟨rfl, rest⟩ := rest
  refine congrArg (Psbt.mk unsignedTx) (List.ext_getElem? fun index => ?_)
  have rest := congrArg (fun inputs => inputs[index]?) rest
  simp only [List.getElem?_map] at rest
  have sigs := sigs index
  simp only [sigAt] at sigs
  cases here : inputs[index]? with
  | none =>
      rw [here, Option.map_none, eq_comm, Option.map_eq_none_iff] at rest
      exact rest.symm
  | some input =>
      rw [here, Option.map_some, eq_comm, Option.map_eq_some_iff] at rest
      obtain ⟨input', here', rest⟩ := rest
      rw [here']
      rw [here, here'] at sigs
      exact congrArg some (PsbtInput.ext_sigs rest.symm sigs)

theorem stripSigs_mergeSigs {base other : Psbt}
    (same : base.inputs.length = other.inputs.length) :
    (base.mergeSigs other).stripSigs = base.stripSigs := by
  simp only [stripSigs, mergeSigs, Psbt.mk.injEq, true_and]
  refine List.ext_getElem (by simp [same]) fun index bound bound' => ?_
  simp [PsbtInput.stripSigs, PsbtInput.mergeSigs]

theorem stripSigs_mergeCopies {base : Psbt} {copies : List Psbt}
    (same : ∀ copy ∈ copies, base.SameShape copy) :
    (base.mergeCopies copies).stripSigs = base.stripSigs := by
  induction copies generalizing base with
  | nil => rfl
  | cons copy copies ih =>
      have here := same copy List.mem_cons_self
      have later : ∀ other ∈ copies, (base.mergeSigs copy).SameShape other := fun other member =>
        here.mergeSigs.trans (same other (List.mem_cons_of_mem _ member))
      exact (ih later).trans (stripSigs_mergeSigs here.2)

theorem insertSig_inputs_length (psbt : Psbt) (index : Nat) (key : SigKey)
    (sig : TaprootSignature) :
    (psbt.insertSig index key sig).inputs.length = psbt.inputs.length := by
  simp [insertSig]

/-- The signature is recorded in its place, and nowhere else. -/
theorem sigAt_insertSig {psbt : Psbt} {index : Nat} (bound : index < psbt.inputs.length)
    (key : SigKey) (sig : TaprootSignature) (index' : Nat) (key' : SigKey) :
    (psbt.insertSig index key sig).sigAt index' key' =
      if index = index' ∧ key = key' then some sig else psbt.sigAt index' key' := by
  simp only [sigAt, insertSig, List.getElem?_modify]
  by_cases here : index = index'
  · subst here
    rw [List.getElem?_eq_getElem bound]
    by_cases under : key = key'
    · simp [under, PsbtInput.insertSig]
    · have other : compare key key' ≠ .eq := fun same => under (LawfulEqOrd.eq_of_compare same)
      simp [under, PsbtInput.insertSig, ExtTreeMap.getElem?_insert, other]
  · simp [here]

end Psbt

namespace Spend

variable {B : BitcoinLib}

/-! ## The co-signed PSBT -/

/-- What the co-signed PSBT is, and what checking it again gives. -/
structure CoSignatureStable (B : BitcoinLib) (own serverSigned canonical : Psbt)
    (serverKey : XOnlyPublicKey) (leafHash : TapLeafHash) : Prop where
  leafKey : escrowLeafServerKey B own 0 = .ok serverKey
  leaf : ∃ msg, arkTxSighash B own 0 = .ok (msg, leafHash)
  rest : canonical.stripSigs = own.stripSigs
  frame : ∀ index key, (index, key) ≠ (0, (serverKey, leafHash)) →
    canonical.sigAt index key = own.sigAt index key
  recorded : canonical.sigAt 0 (serverKey, leafHash) = serverSigned.sigAt 0 (serverKey, leafHash)
  reply : ∀ other : Psbt, other.unsignedTx = serverSigned.unsignedTx →
    other.sigAt 0 (serverKey, leafHash) = serverSigned.sigAt 0 (serverKey, leafHash) →
    verifyServerArkTxSig B own other = .ok canonical
  self : verifyServerArkTxSig B canonical canonical = .ok canonical
  again : verifyServerArkTxSig B canonical serverSigned = .ok canonical
  merging : ∀ other merged, mergeArkTxSigs own other = .ok merged →
    verifyServerArkTxSig B merged serverSigned = mergeArkTxSigs canonical other

theorem CoSigned.bound {own serverSigned : Psbt} {serverKey : XOnlyPublicKey}
    {leafHash : TapLeafHash} {msg : Message} {sig : TaprootSignature}
    (checked : CoSigned B own serverSigned serverKey leafHash msg sig) :
    0 < own.inputs.length :=
  List.length_pos_iff.mpr checked.inputs_ne_nil

/-- **Recording a signature twice is recording it once.** -/
theorem insertSig_insertSig {psbt : Psbt} (bound : 0 < psbt.inputs.length) (key : SigKey)
    (sig : TaprootSignature) :
    (psbt.insertSig 0 key sig).insertSig 0 key sig = psbt.insertSig 0 key sig := by
  have bound' : 0 < (psbt.insertSig 0 key sig).inputs.length := by
    rwa [Psbt.insertSig_inputs_length]
  refine Psbt.ext_sigs (Psbt.stripSigs_insertSig ..) fun index key' => ?_
  rw [Psbt.sigAt_insertSig bound']
  split
  · next here => rw [Psbt.sigAt_insertSig bound, if_pos here]
  · rfl

/-- **A recorded signature replaces what is merged in before and stays before what is merged
in after.** -/
theorem insertSig_mergeSigs {own other : Psbt} (same : own.SameShape other)
    (bound : 0 < own.inputs.length) (key : SigKey) (sig : TaprootSignature) :
    (own.mergeSigs other).insertSig 0 key sig = (own.insertSig 0 key sig).mergeSigs other := by
  have merged : (own.mergeSigs other).inputs.length = own.inputs.length :=
    Psbt.mergeSigs_inputs_length same.2
  have inserted : (own.insertSig 0 key sig).inputs.length = other.inputs.length := by
    rw [Psbt.insertSig_inputs_length]
    exact same.2
  refine Psbt.ext_sigs ?_ fun index key' => ?_
  · rw [Psbt.stripSigs_insertSig, Psbt.stripSigs_mergeSigs same.2,
      Psbt.stripSigs_mergeSigs inserted, Psbt.stripSigs_insertSig]
  · rw [Psbt.sigAt_insertSig (merged ▸ bound), Psbt.sigAt_mergeSigs inserted,
      Psbt.sigAt_insertSig bound, Psbt.sigAt_mergeSigs same.2]
    split
    · rfl
    · rfl

/-- **The co-signed PSBT is the own copy and one signature, and checking it is stable.** -/
theorem coSignature_stable {own serverSigned canonical : Psbt}
    (accepted : verifyServerArkTxSig B own serverSigned = .ok canonical) :
    ∃ serverKey leafHash,
      CoSignatureStable B own serverSigned canonical serverKey leafHash := by
  obtain ⟨serverKey, leafHash, msg, sig, checked, rfl⟩ :=
    verifyServerArkTxSig_eq_ok_iff.mp accepted
  have stripped := own.stripSigs_insertSig 0 (serverKey, leafHash) sig
  refine ⟨serverKey, leafHash, checked.leafKey, ⟨msg, checked.sighash⟩, stripped, ?_, ?_, ?_,
    verifyServerArkTxSig_self accepted, ?_, ?_⟩
  · intro index key elsewhere
    rw [Psbt.sigAt_insertSig checked.bound, if_neg]
    rintro ⟨rfl, rfl⟩
    exact elsewhere rfl
  · rw [Psbt.sigAt_insertSig checked.bound, if_pos ⟨rfl, rfl⟩, checked.recorded]
  · intro other unsignedTx recorded
    refine verifyServerArkTxSig_eq_ok_iff.mpr ⟨serverKey, leafHash, msg, sig, ?_, rfl⟩
    exact checked.congr rfl (unsignedTx.trans checked.unsignedTx)
      (recorded.trans checked.recorded)
  · refine verifyServerArkTxSig_eq_ok_iff.mpr ⟨serverKey, leafHash, msg, sig, ?_,
      (insertSig_insertSig checked.bound _ sig).symm⟩
    exact checked.congr stripped checked.unsignedTx checked.recorded
  · intro other merged ok
    obtain ⟨same, rfl⟩ := mergeArkTxSigs_eq_ok_iff.mp ok
    have same' : (own.insertSig 0 (serverKey, leafHash) sig).SameShape other :=
      ⟨same.1, (own.insertSig_inputs_length ..).trans same.2⟩
    rw [mergeArkTxSigs_eq_ok_iff.mpr ⟨same', rfl⟩]
    refine verifyServerArkTxSig_eq_ok_iff.mpr ⟨serverKey, leafHash, msg, sig, ?_,
      (insertSig_mergeSigs same checked.bound _ sig).symm⟩
    exact checked.congr (Psbt.stripSigs_mergeSigs same.2) checked.unsignedTx checked.recorded

theorem coSignature_stable_sample :
    ∃ serverKey leafHash, CoSignatureStable BitcoinLib.reference
      (Sample.arkTx [Sample.checkpoint 1 ∅]) (Sample.cosigned [Sample.checkpoint 1 ∅])
      (Sample.cosigned [Sample.checkpoint 1 ∅]) serverKey leafHash :=
  coSignature_stable (Sample.verified_cosigned (Sample.checkpoint 1 ∅) [])

/-! ## Merging in place -/

/-- `merge_ark_tx_sigs(&mut base, other)`. -/
def mergeInto (other : Psbt) : ExceptT Error (StateM Psbt) Unit := do
  let base ← get
  ensure (base.unsignedTx == other.unsignedTx)
    "refusing to merge signatures: unsigned transactions differ"
  let baseCount := base.inputs.length
  let otherCount := other.inputs.length
  ensure (baseCount == otherCount)
    s!"refusing to merge signatures: input counts differ (base {baseCount}, other {otherCount})"
  other.inputs.zipIdx.forM fun (otherInput, index) => modify fun base =>
    { base with inputs := base.inputs.modify index fun baseInput => baseInput.mergeSigs otherInput }

/-- What the loop has done with the inputs from `start` on. -/
theorem run_mergeInputs (others : List PsbtInput) (start : Nat) (base : Psbt) :
    ∃ inputs, ((others.zipIdx start).forM fun (entry : PsbtInput × Nat) =>
        (modify fun base : Psbt => { base with
          inputs := base.inputs.modify entry.2 fun baseInput => baseInput.mergeSigs entry.1 } :
          ExceptT Error (StateM Psbt) Unit)) base = (.ok (), { base with inputs := inputs }) ∧
      ∀ index, inputs[index]? = base.inputs[index]?.map fun baseInput =>
        if start ≤ index then others[index - start]?.elim baseInput baseInput.mergeSigs
        else baseInput := by
  induction others generalizing start base with
  | nil => exact ⟨base.inputs, rfl, fun index => by simp⟩
  | cons other others ih =>
      obtain ⟨inputs, loop, merged⟩ := ih (start + 1) { base with
        inputs := base.inputs.modify start fun baseInput => baseInput.mergeSigs other }
      refine ⟨inputs, loop, fun index => ?_⟩
      rw [merged, List.getElem?_modify]
      rcases Nat.lt_trichotomy index start with before | rfl | after
      · simp [Nat.not_le.mpr before, Nat.ne_of_gt before, Nat.not_le.mpr (Nat.lt_succ_of_lt before)]
      · simp [Function.comp_def]
      · obtain ⟨offset, rfl⟩ := Nat.exists_eq_add_of_lt after
        have later : start + offset + 1 - (start + 1) = offset := by omega
        have later' : start + offset + 1 - start = offset + 1 := by omega
        simp [later, later', Nat.ne_of_lt after, Nat.le_of_lt after]

/-- A check passes, or ends the computation and leaves the state. -/
theorem run_check_bind {σ α : Type} (r : Except Error Unit) (rest : ExceptT Error (StateM σ) α)
    (s : σ) : (liftM r >>= fun _ => rest : ExceptT Error (StateM σ) α).run.run s =
      r.casesOn (fun e => (.error e, s)) fun _ => rest.run.run s := by
  cases r <;> rfl

/-- Reading the state leaves it. -/
theorem run_get_bind {σ α : Type} (rest : σ → ExceptT Error (StateM σ) α) (s : σ) :
    (get >>= rest : ExceptT Error (StateM σ) α).run.run s = (rest s).run.run s := rfl

/-- **Merging in place** writes what `mergeArkTxSigs` returns, and nothing where that fails. -/
theorem run_mergeInto (base other : Psbt) :
    (mergeInto other).run.run base =
      ((mergeArkTxSigs base other).map fun _ => (),
        (mergeArkTxSigs base other).toOption.getD base) := by
  rw [mergeInto, mergeArkTxSigs]
  refine (run_get_bind _ base).trans ?_
  refine (run_check_bind _ _ base).trans ?_
  cases base.unsignedTx == other.unsignedTx with
  | false => rfl
  | true =>
      refine (run_check_bind _ _ base).trans ?_
      dsimp only
      cases count : base.inputs.length == other.inputs.length with
      | false => rfl
      | true =>
          have count : base.inputs.length = other.inputs.length := beq_iff_eq.mp count
          obtain ⟨inputs, loop, merged⟩ := run_mergeInputs other.inputs 0 base
          have same : inputs = (base.mergeSigs other).inputs := by
            refine List.ext_getElem? fun index => ?_
            rw [merged, Psbt.mergeSigs, List.getElem?_zipWith]
            by_cases bound : index < base.inputs.length
            · have bound' : index < other.inputs.length := count ▸ bound
              simp [bound, bound']
            · simp [List.getElem?_eq_none (Nat.not_lt.mp bound)]
          rw [same] at loop
          exact loop

/-! ## Collecting signatures -/

/-- No two of the PSBTs carry different signatures under one key. -/
def SigsAgree (psbts : List Psbt) : Prop :=
  ∀ a ∈ psbts, ∀ b ∈ psbts, ∀ index key sig sig', a.sigAt index key = some sig →
    b.sigAt index key = some sig' → sig = sig'

theorem run_mergeInto_copies {base : Psbt} {copies : List Psbt}
    (shape : ∀ copy ∈ copies, base.SameShape copy) :
    (copies.forM mergeInto).run.run base = (.ok (), base.mergeCopies copies) := by
  induction copies generalizing base with
  | nil => rfl
  | cons copy copies ih =>
      have here := shape copy List.mem_cons_self
      have later : ∀ other ∈ copies, (base.mergeSigs copy).SameShape other := fun other member =>
        here.mergeSigs.trans (shape other (List.mem_cons_of_mem _ member))
      have first := run_mergeInto base copy
      rw [mergeArkTxSigs_eq_ok_iff.mpr ⟨here, rfl⟩] at first
      show (mergeInto copy >>= fun _ => copies.forM mergeInto).run.run base = _
      rw [ExceptT.run_bind, StateT.run_bind, first]
      exact ih later

/-- What is collected under a key is what one of the PSBTs carries. -/
theorem sigAt_mergeCopies_eq_some_iff {base : Psbt} {copies : List Psbt}
    (shape : ∀ copy ∈ copies, base.SameShape copy) (agree : SigsAgree (base :: copies))
    {index : Nat} {key : SigKey} {sig : TaprootSignature} :
    (base.mergeCopies copies).sigAt index key = some sig ↔
      ∃ psbt ∈ base :: copies, psbt.sigAt index key = some sig := by
  rw [Psbt.sigAt_mergeCopies shape, Option.or_eq_some_iff]
  constructor
  · rintro (own | ⟨_, copied⟩)
    · exact ⟨base, List.mem_cons_self, own⟩
    · obtain ⟨copy, member, found⟩ := List.exists_of_findSome?_eq_some copied
      exact ⟨copy, List.mem_cons_of_mem _ member, found⟩
  · rintro ⟨psbt, member, found⟩
    cases own : base.sigAt index key with
    | some sig' =>
        exact .inl (congrArg some (agree _ List.mem_cons_self _ member _ _ _ _ own found))
    | none =>
        refine .inr ⟨rfl, ?_⟩
        rcases List.mem_cons.mp member with rfl | member
        · cases own.symm.trans found
        cases copied : copies.findSome? fun copy => copy.sigAt index key with
        | none =>
            cases (List.findSome?_eq_none_iff.mp copied psbt member).symm.trans found
        | some sig' =>
            obtain ⟨copy, member', found'⟩ := List.exists_of_findSome?_eq_some copied
            exact congrArg some (agree _ (List.mem_cons_of_mem _ member') _
              (List.mem_cons_of_mem _ member) _ _ _ _ found' found)

/-- What merging the copies into the base gives: the union of all signatures in the base,
whatever their order and however often each is merged. -/
structure Collected (base : Psbt) (copies : List Psbt) (merged : Psbt) : Prop where
  folds : ∀ order : List Psbt, (∀ copy, copy ∈ order ↔ copy ∈ copies) →
    (order.forM mergeInto).run.run base = (.ok (), merged)
  rest : merged.stripSigs = base.stripSigs
  union : ∀ index key sig, merged.sigAt index key = some sig ↔
    ∃ psbt ∈ base :: copies, psbt.sigAt index key = some sig

/-- **Collecting signatures** does not depend on the order and loses nothing, and a refusal
leaves the base as it was. -/
theorem signatures_collected (base : Psbt) :
    (∀ copies, (∀ copy ∈ copies, base.SameShape copy) → SigsAgree (base :: copies) →
      ∃ merged, Collected base copies merged) ∧
    ∀ other e base', (mergeInto other).run.run base = (.error e, base') → base' = base := by
  constructor
  · intro copies shape agree
    refine ⟨base.mergeCopies copies, ?_, Psbt.stripSigs_mergeCopies shape,
      fun index key sig => sigAt_mergeCopies_eq_some_iff shape agree⟩
    intro order same
    have shape' : ∀ copy ∈ order, base.SameShape copy := fun copy member =>
      shape copy ((same copy).mp member)
    have members : ∀ psbt, psbt ∈ base :: order ↔ psbt ∈ base :: copies := fun psbt => by
      rw [List.mem_cons, List.mem_cons, same]
    have agree' : SigsAgree (base :: order) := fun a member b member' =>
      agree a ((members a).mp member) b ((members b).mp member')
    rw [run_mergeInto_copies shape']
    refine congrArg (Prod.mk _) (Psbt.ext_sigs ?_ fun index key => Option.ext fun sig => ?_)
    · rw [Psbt.stripSigs_mergeCopies shape', Psbt.stripSigs_mergeCopies shape]
    · rw [sigAt_mergeCopies_eq_some_iff shape' agree', sigAt_mergeCopies_eq_some_iff shape agree]
      exact exists_congr fun psbt => and_congr_left fun _ => members psbt
  · intro other e base' refused
    rw [run_mergeInto] at refused
    obtain ⟨failed, rfl⟩ := Prod.mk.inj refused
    cases merged : mergeArkTxSigs base other with
    | error _ => rfl
    | ok _ =>
        rw [merged] at failed
        cases failed

/-- A checkpoint that one key has signed. -/
noncomputable def signedBy (signer : XOnlyPublicKey) : Psbt :=
  Sample.checkpoint 1 ((∅ : BTreeMap SigKey TaprootSignature).insert (signer, Sample.leafHash)
    ⟨BitcoinLib.referenceSignature Sample.message signer, .default⟩)

/-- The copies of the seller and the arbiter are merged into the server's. -/
theorem signatures_collected_sample :
    ∃ merged, Collected (signedBy Sample.options.server)
        [signedBy Sample.options.seller, signedBy Sample.options.arbiter] merged ∧
      ∀ signer ∈ [Sample.options.server, Sample.options.seller, Sample.options.arbiter],
        merged.sigAt 0 (signer, Sample.leafHash) =
          some ⟨BitcoinLib.referenceSignature Sample.message signer, .default⟩ := by
  have signers : List.map signedBy [Sample.options.server, Sample.options.seller,
      Sample.options.arbiter] = [signedBy Sample.options.server, signedBy Sample.options.seller,
        signedBy Sample.options.arbiter] := rfl
  have shape : ∀ copy ∈ [signedBy Sample.options.seller, signedBy Sample.options.arbiter],
      (signedBy Sample.options.server).SameShape copy := by
    intro copy member
    obtain ⟨signer, _, rfl⟩ : ∃ signer ∈ [Sample.options.seller, Sample.options.arbiter],
        signedBy signer = copy := List.mem_map.mp member
    exact ⟨rfl, rfl⟩
  have agree : SigsAgree [signedBy Sample.options.server, signedBy Sample.options.seller,
      signedBy Sample.options.arbiter] := by
    rw [← signers]
    intro a member b member' index key sig sig' found found'
    obtain ⟨signer, _, rfl⟩ := List.mem_map.mp member
    obtain ⟨signer', _, rfl⟩ := List.mem_map.mp member'
    obtain ⟨⟨_, rfl⟩, rfl⟩ := Sample.sigAt_checkpoint_eq_some_iff.mp found
    obtain ⟨⟨_, same⟩, rfl⟩ := Sample.sigAt_checkpoint_eq_some_iff.mp found'
    rw [(Prod.mk.inj same).1]
  obtain ⟨merged, collected⟩ := (signatures_collected (signedBy Sample.options.server)).1 _ shape
    agree
  refine ⟨merged, collected, fun signer member => (collected.union ..).mpr ?_⟩
  exact ⟨signedBy signer, signers ▸ List.mem_map_of_mem member,
    Sample.sigAt_checkpoint_eq_some_iff.mpr ⟨⟨rfl, rfl⟩, rfl⟩⟩

end Spend
end ArkadeEscrow
