import ArkadeEscrow.Client.Rules

/-!
# What the merge makes of a reply

The returned checkpoints get their witness scripts back and then the signatures of each
party's copy at the same position. Neither step touches a transaction, and the second never
replaces a signature: what the server put under a key stays (`Merges.mergedFrom`). The merge
succeeds when the checkpoints have input records and the parties' copies match the reply
position by position (`Merges.positional`, `exists_merges`).
-/

set_option autoImplicit false

namespace ArkadeEscrow

namespace Psbt

theorem SameShape.refl (psbt : Psbt) : psbt.SameShape psbt := ⟨rfl, rfl⟩

theorem SameShape.symm {a b : Psbt} (same : a.SameShape b) : b.SameShape a :=
  ⟨same.1.symm, same.2.symm⟩

theorem SameShape.trans {a b c : Psbt} (first : a.SameShape b) (second : b.SameShape c) :
    a.SameShape c :=
  ⟨first.1.trans second.1, first.2.trans second.2⟩

theorem forall₂_sameShape_refl (psbts : List Psbt) : List.Forall₂ SameShape psbts psbts :=
  List.forall₂_same.mpr fun psbt _ => .refl psbt

theorem forall₂_sameShape_symm {xs ys : List Psbt} (same : List.Forall₂ SameShape xs ys) :
    List.Forall₂ SameShape ys xs :=
  (same.imp fun _ _ => SameShape.symm).flip

theorem forall₂_sameShape_trans {xs ys zs : List Psbt} (first : List.Forall₂ SameShape xs ys)
    (second : List.Forall₂ SameShape ys zs) : List.Forall₂ SameShape xs zs := by
  induction first generalizing zs with
  | nil => exact second
  | cons head _ ih =>
      cases second with
      | cons head' tail' => exact .cons (head.trans head') (ih tail')

theorem SameShape.mergeSigs {base other : Psbt} (same : base.SameShape other) :
    (base.mergeSigs other).SameShape base :=
  ⟨rfl, mergeSigs_inputs_length same.2⟩

/-- The signatures of some copies, merged one after the other. -/
def mergeCopies (base : Psbt) (copies : List Psbt) : Psbt := copies.foldl mergeSigs base

theorem mergeCopies_sameShape {base : Psbt} {copies : List Psbt}
    (same : ∀ copy ∈ copies, base.SameShape copy) : (base.mergeCopies copies).SameShape base := by
  induction copies generalizing base with
  | nil => exact .refl base
  | cons copy copies ih =>
      have here := same copy List.mem_cons_self
      have later : ∀ other ∈ copies, (base.mergeSigs copy).SameShape other := fun other member =>
        here.mergeSigs.trans (same other (List.mem_cons_of_mem _ member))
      exact (ih later).trans here.mergeSigs

/-- **The first copy to carry a signature decides it.** -/
theorem sigAt_mergeCopies {base : Psbt} {copies : List Psbt}
    (same : ∀ copy ∈ copies, base.SameShape copy) (index : Nat) (key : SigKey) :
    (base.mergeCopies copies).sigAt index key =
      (base.sigAt index key).or (copies.findSome? fun copy => copy.sigAt index key) := by
  induction copies generalizing base with
  | nil => simp [mergeCopies]
  | cons copy copies ih =>
      have here := same copy List.mem_cons_self
      have later : ∀ other ∈ copies, (base.mergeSigs copy).SameShape other := fun other member =>
        here.mergeSigs.trans (same other (List.mem_cons_of_mem _ member))
      have first := sigAt_mergeSigs here.2 index key
      rw [List.findSome?_cons]
      calc ((base.mergeSigs copy).mergeCopies copies).sigAt index key
          = ((base.sigAt index key).or (copy.sigAt index key)).or
              (copies.findSome? fun other => other.sigAt index key) := by rw [ih later, first]
        _ = (base.sigAt index key).or ((copy.sigAt index key).or
              (copies.findSome? fun other => other.sigAt index key)) := Option.or_assoc
        _ = _ := by cases copy.sigAt index key <;> rfl

end Psbt

namespace Client

variable {B : BitcoinLib}

/-! ## Merging the parties' copies -/

/-- The copies of a checkpoint, one from each party. -/
def copiesAt (partyCps : List (List Psbt)) (position : Nat) : List Psbt :=
  partyCps.filterMap fun copies => copies[position]?

theorem foldlM_mergePartyCheckpoint {serverCheckpoints : List Psbt}
    {i : Fin serverCheckpoints.length} {partyCps : List (List Psbt)} {base merged : Psbt} :
    partyCps.foldlM (mergePartyCheckpoint serverCheckpoints i) base = .ok merged ↔
      (∀ copies ∈ partyCps, copies.length = serverCheckpoints.length) ∧
      (∀ copy ∈ copiesAt partyCps i, base.SameShape copy) ∧
      merged = base.mergeCopies (copiesAt partyCps i) := by
  induction partyCps generalizing base with
  | nil =>
      simp only [List.foldlM_nil, copiesAt, List.filterMap_nil, Psbt.mergeCopies, List.foldl_nil]
      constructor
      · intro same
        exact ⟨by simp, by simp, (Except.ok.inj same).symm⟩
      · intro parts
        rcases parts with ⟨_, _, rfl⟩
        rfl
  | cons copies partyCps ih =>
      rw [List.foldlM_cons, List.forall_mem_cons]
      by_cases count : copies.length = serverCheckpoints.length
      · have bound : i.val < copies.length := by have := i.isLt; omega
        have here : copiesAt (copies :: partyCps) i = copies[i.val] :: copiesAt partyCps i := by
          simp [copiesAt, bound]
        have body : mergePartyCheckpoint serverCheckpoints i base copies =
            Spend.mergeArkTxSigs base copies[i.val] := by
          simp [mergePartyCheckpoint, count]
        rw [here, body]
        constructor
        · intro accepted
          obtain ⟨next, head, tail⟩ := Results.bind_eq_ok_iff.mp accepted
          obtain ⟨same, rfl⟩ := Spend.mergeArkTxSigs_eq_ok_iff.mp head
          obtain ⟨counts, shapes, rfl⟩ := ih.mp tail
          refine ⟨⟨count, counts⟩, ?_, rfl⟩
          rw [List.forall_mem_cons]
          exact ⟨same, fun copy member => same.mergeSigs.symm.trans (shapes copy member)⟩
        · intro parts
          rcases parts with ⟨⟨_, counts⟩, shapes, rfl⟩
          obtain ⟨same, shapes⟩ := List.forall_mem_cons.mp shapes
          refine Results.bind_eq_ok_iff.mpr ⟨base.mergeSigs copies[i.val],
            Spend.mergeArkTxSigs_eq_ok_iff.mpr ⟨same, rfl⟩, ih.mpr ⟨counts, ?_, rfl⟩⟩
          exact fun copy member => same.mergeSigs.trans (shapes copy member)
      · have refused : mergePartyCheckpoint serverCheckpoints i base copies = .error (.msg
            s!"party has {copies.length} checkpoints, expected {serverCheckpoints.length}") := by
          simp [mergePartyCheckpoint, count]
        rw [refused]
        constructor
        · intro accepted
          cases accepted
        · intro parts
          rcases parts with ⟨⟨same, _⟩, _⟩
          exact absurd same count

/-- **When the merge succeeds, and its result.** The loop over the parties never runs when
the server returned nothing. -/
theorem mergeAllCheckpointSigs_eq_ok_iff {serverCheckpoints finalCheckpoints : List Psbt}
    {partyCps : List (List Psbt)} :
    mergeAllCheckpointSigs serverCheckpoints partyCps = .ok finalCheckpoints ↔
      (serverCheckpoints = [] ∨
        ∀ copies ∈ partyCps, List.Forall₂ Psbt.SameShape serverCheckpoints copies) ∧
      finalCheckpoints =
        serverCheckpoints.mapIdx fun i cp => cp.mergeCopies (copiesAt partyCps i) := by
  rw [mergeAllCheckpointSigs, Results.mapM_eq_ok_iff, List.forall₂_iff_get]
  simp only [foldlM_mergePartyCheckpoint, List.get_eq_getElem, List.getElem_finRange,
    List.length_finRange, Fin.cast_mk]
  constructor
  · intro parts
    rcases parts with ⟨count, merged⟩
    refine ⟨?_, ?_⟩
    · rcases Nat.eq_zero_or_pos serverCheckpoints.length with empty | some
      · exact .inl (List.length_eq_zero_iff.mp empty)
      refine .inr fun copies member => List.forall₂_iff_get.mpr ⟨?_, fun i bound bound' => ?_⟩
      · exact ((merged 0 some (count ▸ some)).1 copies member).symm
      · have here : copies[i] ∈ copiesAt partyCps i :=
          List.mem_filterMap.mpr ⟨copies, member, by simp [bound']⟩
        exact (merged i bound (count ▸ bound)).2.1 _ here
    · refine List.ext_getElem (by simp [count]) fun i bound bound' => ?_
      rw [List.getElem_mapIdx]
      exact (merged i (count ▸ bound) bound).2.2
  · intro parts
    rcases parts with ⟨shapes, rfl⟩
    refine ⟨by simp, fun i bound _ => ⟨?_, ?_, by simp⟩⟩
    · intro copies member
      rcases shapes with rfl | shapes
      · cases bound
      · exact (shapes copies member).length_eq.symm
    · intro copy member
      obtain ⟨copies, party, found⟩ := List.mem_filterMap.mp member
      obtain ⟨bound', rfl⟩ := List.getElem?_eq_some_iff.mp found
      rcases shapes with rfl | shapes
      · cases bound
      · exact (List.forall₂_iff_get.mp (shapes copies party)).2 i bound bound'

/-! ## Restoring the witness scripts -/

/-- The same transaction, records and signatures, whatever the witness scripts. -/
def SameSigs (a b : Psbt) : Prop :=
  a.SameShape b ∧ ∀ index key, a.sigAt index key = b.sigAt index key

theorem SameSigs.refl (psbt : Psbt) : SameSigs psbt psbt := ⟨.refl psbt, fun _ _ => rfl⟩

theorem restoreWitnessScript_sameSigs {scripts : BTreeMap Txid (Option ScriptBuf)}
    {cp restored : Psbt} (done : restoreWitnessScript B scripts cp = some restored) :
    SameSigs cp restored := by
  rw [restoreWitnessScript] at done
  split at done
  · next ws _ =>
      obtain ⟨unsignedTx, inputs⟩ := cp
      cases inputs with
      | nil => cases done
      | cons input rest =>
          obtain rfl := Option.some.inj done
          refine ⟨⟨rfl, rfl⟩, fun index key => ?_⟩
          cases index with
          | zero => rfl
          | succ index => rfl
  · obtain rfl := Option.some.inj done
    exact .refl _

theorem exists_restoreWitnessScript {scripts : BTreeMap Txid (Option ScriptBuf)} {cp : Psbt}
    (some : cp.inputs ≠ []) : ∃ restored, restoreWitnessScript B scripts cp = .some restored := by
  obtain ⟨input, rest, inputs⟩ := List.exists_cons_of_ne_nil some
  rw [restoreWitnessScript]
  split
  · rw [setFirstWitnessScript, inputs]
    exact ⟨_, rfl⟩
  · exact ⟨cp, rfl⟩

/-- Restoring indexes the first input record of every submitted checkpoint. -/
theorem exists_witnessScripts_iff {checkpointTxs : List Psbt} :
    (∃ scripts, witnessScripts B checkpointTxs = some scripts) ↔
      ∀ cp ∈ checkpointTxs, cp.inputs ≠ [] := by
  have entries : (∃ entries, checkpointTxs.mapM (witnessScriptEntry B) = some entries) ↔
      ∀ cp ∈ checkpointTxs, cp.inputs ≠ [] := by
    rw [Results.mapM_isSome_iff]
    refine forall₂_congr fun cp _ => ?_
    rw [witnessScriptEntry]
    cases cp.inputs with
    | nil => simp
    | cons input rest => simp
  rw [← entries]
  constructor
  · intro parts
    rcases parts with ⟨scripts, done⟩
    obtain ⟨list, listed, _⟩ := Option.bind_eq_some_iff.mp done
    exact ⟨list, listed⟩
  · intro parts
    rcases parts with ⟨list, listed⟩
    exact ⟨_, Option.bind_eq_some_iff.mpr ⟨list, listed, rfl⟩⟩

theorem restoreWitnessScripts_forall₂ {checkpointTxs signedCheckpointTxs restored : List Psbt}
    (done : restoreWitnessScripts B checkpointTxs signedCheckpointTxs = some restored) :
    List.Forall₂ SameSigs signedCheckpointTxs restored := by
  obtain ⟨scripts, _, done⟩ := Option.bind_eq_some_iff.mp done
  exact (Results.mapM_eq_some_iff.mp done).imp fun cp cp' => restoreWitnessScript_sameSigs

theorem exists_restoreWitnessScripts {checkpointTxs signedCheckpointTxs : List Psbt}
    (submitted : ∀ cp ∈ checkpointTxs, cp.inputs ≠ [])
    (returned : ∀ cp ∈ signedCheckpointTxs, cp.inputs ≠ []) :
    ∃ restored, restoreWitnessScripts B checkpointTxs signedCheckpointTxs = some restored := by
  obtain ⟨scripts, indexed⟩ := exists_witnessScripts_iff.mpr submitted
  have bodies : ∀ cp ∈ signedCheckpointTxs, ∃ restored,
      restoreWitnessScript B scripts cp = some restored := fun cp member =>
    exists_restoreWitnessScript (returned cp member)
  obtain ⟨restored, done⟩ := Results.mapM_isSome_iff.mpr bodies
  exact ⟨restored, Option.bind_eq_some_iff.mpr ⟨scripts, indexed, done⟩⟩

/-! ## The merged list -/

theorem forall₂_sameShape_congr {xs ys zs : List Psbt} (same : List.Forall₂ SameSigs xs ys) :
    List.Forall₂ Psbt.SameShape ys zs ↔ List.Forall₂ Psbt.SameShape xs zs := by
  induction same generalizing zs with
  | nil => rfl
  | cons head _ ih =>
      cases zs with
      | nil => simp
      | cons z zs =>
          rw [List.forall₂_cons, List.forall₂_cons, ih]
          exact and_congr_left fun _ => ⟨head.1.trans, head.1.symm.trans⟩

/-- The merged list has the returned checkpoints, position by position: a signature that the
server put there stays, and where there was none the first party's copy decides. -/
structure MergedFrom (partyCps : List (List Psbt)) (position : Nat) (returned final : Psbt) :
    Prop where
  sameShape : final.SameShape returned
  sigAt : ∀ index key, final.sigAt index key = (returned.sigAt index key).or
    ((copiesAt partyCps position).findSome? fun copy => copy.sigAt index key)

/-- **What the merge makes of a reply.** -/
theorem Merges.mergedFrom {unsignedCheckpoints finalCheckpoints : List Psbt}
    {partyCps : List (List Psbt)} {reply : SubmitReply}
    (merges : Merges B unsignedCheckpoints partyCps reply finalCheckpoints) :
    finalCheckpoints.length = reply.signedCheckpointTxs.length ∧
      ∀ i cp final, reply.signedCheckpointTxs[i]? = some cp → finalCheckpoints[i]? = some final →
        MergedFrom partyCps i cp final := by
  obtain ⟨serverCheckpoints, restored, merged⟩ := merges
  have same := restoreWitnessScripts_forall₂ restored
  obtain ⟨shapes, rfl⟩ := mergeAllCheckpointSigs_eq_ok_iff.mp merged
  refine ⟨by simpa using same.length_eq.symm, fun i cp final returned last => ?_⟩
  obtain ⟨bound, rfl⟩ := List.getElem?_eq_some_iff.mp returned
  obtain ⟨bound', rfl⟩ := List.getElem?_eq_some_iff.mp last
  rw [List.length_mapIdx] at bound'
  have here : SameSigs reply.signedCheckpointTxs[i] serverCheckpoints[i] :=
    (List.forall₂_iff_get.mp same).2 i bound bound'
  have copies : ∀ copy ∈ copiesAt partyCps i, serverCheckpoints[i].SameShape copy := by
    intro copy member
    obtain ⟨party, listed, found⟩ := List.mem_filterMap.mp member
    obtain ⟨bound'', rfl⟩ := List.getElem?_eq_some_iff.mp found
    rcases shapes with rfl | shapes
    · cases bound'
    · exact (List.forall₂_iff_get.mp (shapes party listed)).2 i bound' bound''
  rw [List.getElem_mapIdx]
  exact
    { sameShape := (Psbt.mergeCopies_sameShape copies).trans here.1.symm
      sigAt := fun index key => by rw [Psbt.sigAt_mergeCopies copies, here.2] }

/-- What is merged is as well-formed as what was returned. -/
theorem Merges.wellFormed {unsignedCheckpoints finalCheckpoints : List Psbt}
    {partyCps : List (List Psbt)} {reply : SubmitReply}
    (merges : Merges B unsignedCheckpoints partyCps reply finalCheckpoints)
    (replied : reply.WellFormed) : ∀ cp ∈ finalCheckpoints, cp.WellFormed := by
  intro final member
  obtain ⟨count, positions⟩ := merges.mergedFrom
  obtain ⟨i, bound, rfl⟩ := List.getElem_of_mem member
  have returned := List.getElem?_eq_getElem (count ▸ bound)
  have shape := (positions i _ _ returned (List.getElem?_eq_getElem bound)).sameShape
  exact shape.wellFormed (replied _ (List.mem_of_getElem? returned))

/-- The merge touches no transaction. -/
theorem Merges.map_unsignedTx {unsignedCheckpoints finalCheckpoints : List Psbt}
    {partyCps : List (List Psbt)} {reply : SubmitReply}
    (merges : Merges B unsignedCheckpoints partyCps reply finalCheckpoints) :
    finalCheckpoints.map Psbt.unsignedTx = reply.signedCheckpointTxs.map Psbt.unsignedTx := by
  obtain ⟨count, positions⟩ := merges.mergedFrom
  refine List.ext_getElem (by simpa using count) fun i bound bound' => ?_
  rw [List.length_map] at bound bound'
  rw [List.getElem_map, List.getElem_map]
  exact (positions i _ _ (List.getElem?_eq_getElem bound')
    (List.getElem?_eq_getElem bound)).sameShape.1

/-- **A merge that succeeds** has met an input record in every submitted checkpoint, and
parties' copies that match the reply position by position. -/
theorem Merges.positional {unsignedCheckpoints finalCheckpoints : List Psbt}
    {partyCps : List (List Psbt)} {reply : SubmitReply}
    (merges : Merges B unsignedCheckpoints partyCps reply finalCheckpoints) :
    (∀ cp ∈ unsignedCheckpoints, cp.inputs ≠ []) ∧
      (reply.signedCheckpointTxs = [] ∨ ∀ copies ∈ partyCps,
        List.Forall₂ Psbt.SameShape reply.signedCheckpointTxs copies) := by
  obtain ⟨serverCheckpoints, restored, merged⟩ := merges
  have same := restoreWitnessScripts_forall₂ restored
  obtain ⟨shapes, _⟩ := mergeAllCheckpointSigs_eq_ok_iff.mp merged
  refine ⟨(exists_witnessScripts_iff (B := B)).mp ?_, ?_⟩
  · obtain ⟨scripts, indexed, _⟩ := Option.bind_eq_some_iff.mp restored
    exact ⟨scripts, indexed⟩
  · rcases shapes with rfl | shapes
    · exact .inl (List.forall₂_nil_right_iff.mp same)
    · exact .inr fun copies member => (forall₂_sameShape_congr same).mp (shapes copies member)

/-- **The merge succeeds** when in addition every returned checkpoint has an input record. -/
theorem exists_merges {unsignedCheckpoints : List Psbt} {partyCps : List (List Psbt)}
    {reply : SubmitReply} (submitted : ∀ cp ∈ unsignedCheckpoints, cp.inputs ≠ [])
    (returned : ∀ cp ∈ reply.signedCheckpointTxs, cp.inputs ≠ [])
    (shapes : ∀ copies ∈ partyCps,
      List.Forall₂ Psbt.SameShape reply.signedCheckpointTxs copies) :
    ∃ finalCheckpoints, Merges B unsignedCheckpoints partyCps reply finalCheckpoints := by
  obtain ⟨serverCheckpoints, restored⟩ := exists_restoreWitnessScripts (B := B) submitted returned
  have same := restoreWitnessScripts_forall₂ restored
  refine ⟨_, serverCheckpoints, restored, mergeAllCheckpointSigs_eq_ok_iff.mpr ⟨?_, rfl⟩⟩
  exact .inr fun copies member => (forall₂_sameShape_congr same).mpr (shapes copies member)

/-- A party may give back the unsigned checkpoints. -/
theorem validateCheckpoints_self {cps : List Psbt} (some : cps ≠ []) :
    validateCheckpoints cps [cps] = .ok () := by
  refine validateCheckpoints_eq_ok_iff.mpr ⟨some, fun copies member => ?_⟩
  rw [List.mem_singleton.mp member]
  exact Psbt.forall₂_sameShape_refl cps

/-- A reply that returns the checkpoints of a party as they are. -/
theorem exists_merges_self (cps : List Psbt) (records : ∀ cp ∈ cps, cp.inputs ≠ [])
    (signedArkTx : Psbt) :
    ∃ finalCheckpoints, Merges B cps [cps] ⟨signedArkTx, cps⟩ finalCheckpoints := by
  refine exists_merges records records fun copies member => ?_
  rw [List.mem_singleton.mp member]
  exact Psbt.forall₂_sameShape_refl cps

/-- A reply without checkpoints merges to nothing, whatever the parties have signed. -/
theorem merges_nil {unsignedCheckpoints : List Psbt} {partyCps : List (List Psbt)}
    (submitted : ∀ cp ∈ unsignedCheckpoints, cp.inputs ≠ []) (signedArkTx : Psbt) :
    Merges B unsignedCheckpoints partyCps ⟨signedArkTx, []⟩ [] := by
  obtain ⟨restored, done⟩ := exists_restoreWitnessScripts (B := B) submitted
    (List.forall_mem_nil _)
  obtain rfl := List.forall₂_nil_left_iff.mp (restoreWitnessScripts_forall₂ done)
  exact ⟨[], done, mergeAllCheckpointSigs_eq_ok_iff.mpr ⟨.inl rfl, rfl⟩⟩

end Client
end ArkadeEscrow
