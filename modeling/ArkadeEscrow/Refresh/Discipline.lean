import ArkadeEscrow.Batch.Reference
import ArkadeEscrow.Refresh.Traces

/-!
# The messages of a refresh

How often a refresh registers and deletes intents, and in which order, wherever the deadline
fires and whatever the server answers (`refresh_disciplined`). `Outline` says what any run of
`refreshEscrow` consists of: nothing, or a part of the ceremony, or the whole ceremony, its
result, and the cleanup.
-/

set_option autoImplicit false

namespace ArkadeEscrow
namespace Refresh

open Interaction Batch Program

variable {L : BatchLib} {B : BitcoinLib} {statusText : Status → String}
variable {client : EscrowClient} {refresh : RefreshIntent L} {refreshCosignerKp : Keypair}
variable {α : Type}

/-! ## Deadlines -/

/-- What a program shows under a timeout is a run of it. It waits for an answer when the
deadline fires. -/
theorem runWithTimeout_inv {timeout : Option Nat} {operation : String} {future : Action L α}
    {h : List (Event (interface L).scheduled)} {t : Thread (interface L).scheduled (Except Error α)}
    (run : Evolves (runWithTimeout timeout operation future).run h t) :
    ∃ u, Evolves future.run (journal h) u ∧ (t.result? = u.result? ∨
      (∃ e, t.result? = some (.error e)) ∧ journal h ≠ []) := by
  cases timeout with
  | none =>
      obtain ⟨u, run', same⟩ := Evolves.unhurried_inv run
      exact ⟨u, run', .inl same⟩
  | some millis =>
      obtain ⟨v, run', mapped⟩ := Evolves.map_inv run
      obtain ⟨u, run'', either⟩ := Evolves.hurried_inv run'
      refine ⟨u, run'', ?_⟩
      rcases either with same | ⟨fired, request, next, rfl⟩
      · left
        rw [mapped, same]
        cases u.result? <;> rfl
      · right
        rw [mapped, fired]
        exact ⟨⟨_, rfl⟩, run''.ne_nil_of_waiting⟩

/-! ## The outline of a run -/

/-- What follows the result of the ceremony. -/
structure Withdrawing (refresh : RefreshIntent L) (outcome : Except Error Txid) (j : Journal L)
    (result : Option (Except Error Txid)) : Prop where
  registers_eq : registers j = 0
  deletes_le : deletes j ≤ 1
  own : ∀ intent, .sent (.ceremony (.deleteIntent intent)) ∈ j → refresh.deleteIntent = some intent
  silent : ∀ remark, .noted remark ∉ j
  failed : deletes j ≠ 0 → ∃ e, outcome = .error e
  same : ∀ r, result = some r → r = outcome
  withdrawn : ∀ e intent, outcome = .error e → refresh.deleteIntent = some intent →
    result ≠ none → deletes j = 1

/-- The error with which a refresh is refused: the client is not connected, or the delete
proof is for other inputs. -/
def Refusal (client : EscrowClient) (refresh : RefreshIntent L) (e : Error) : Prop :=
  serverInfo client.serverInfo = .error e ∨ checkDeleteProof refresh = .error e

/-- What a run of `refreshEscrow` consists of. -/
inductive Outline (statusText : Status → String) (client : EscrowClient)
    (refresh : RefreshIntent L) (refreshCosignerKp : Keypair) :
    Journal L → Option (Except Error Txid) → Prop where
  | refused {result : Option (Except Error Txid)}
      (refusal : ∀ r, result = some r → ∃ e, r = .error e ∧ Refusal client refresh e) :
      Outline statusText client refresh refreshCosignerKp [] result
  | executing {j : Journal L} (checked : checkDeleteProof refresh = .ok ())
      (executing : Executing statusText refresh refreshCosignerKp j none) :
      Outline statusText client refresh refreshCosignerKp j none
  | settled {before after : Journal L} {outcome : Except Error Txid}
      {ended result : Option (Except Error Txid)} (checked : checkDeleteProof refresh = .ok ())
      (executing : Executing statusText refresh refreshCosignerKp before ended)
      (complete : ended ≠ none ∨ before ≠ [])
      (withdrawing : Withdrawing refresh outcome after result) :
      Outline statusText client refresh refreshCosignerKp
        (before ++ .noted (.settled outcome) :: after) result

theorem withdrawing_nil {outcome : Except Error Txid} {result : Option (Except Error Txid)}
    (same : ∀ r, result = some r → r = outcome)
    (other : result = none ∨ refresh.deleteIntent = none ∨ ∃ txid, outcome = .ok txid) :
    Withdrawing refresh outcome [] result where
  registers_eq := rfl
  deletes_le := Nat.zero_le _
  own := by simp
  silent := by simp
  failed := absurd rfl
  same := same
  withdrawn := by
    rintro e intent rfl proof finished
    rcases other with none | none | ⟨txid, ok⟩
    · exact absurd none finished
    · rw [proof] at none
      cases none
    · cases ok

theorem withdrawing_of_deleting {intent : Intent L} {e : Error} {j : Journal L}
    {deleted : Option (Except Error Bool)} {result : Option (Except Error Txid)}
    (proof : refresh.deleteIntent = some intent)
    (deleting : Deleting statusText intent 1 j deleted)
    (same : ∀ r, result = some r → r = .error e) (started : result ≠ none → j ≠ []) :
    Withdrawing refresh (.error e) j result where
  registers_eq := deleting.registers_eq
  deletes_le := deleting.deletes_le
  own intent' sent := deleting.own intent' sent ▸ proof
  silent := deleting.silent
  failed _ := ⟨e, rfl⟩
  same := same
  withdrawn _ _ _ _ finished :=
    deleting.deletes_le.antisymm (deleting.started (started finished))

theorem Executing.unfinished {j : Journal L} {result : Option (Except Error Txid)}
    (executing : Executing statusText refresh refreshCosignerKp j result) :
    Executing statusText refresh refreshCosignerKp j none :=
  { executing with
    started := fun passes checked either =>
      executing.started passes checked (.inr (either.resolve_left (absurd rfl))) }

/-- What a run shows after the ceremony. -/
theorem withdrawing_inv {outcome : Except Error Txid} {h : List (Event (interface L).scheduled)}
    {t : Thread (interface L).scheduled (Except Error Txid)}
    (run : Evolves (cleanup statusText client refresh outcome).run h t) :
    Withdrawing refresh outcome (journal h) t.result? := by
  rw [cleanup.eq_def] at run
  cases outcome with
  | ok txid =>
      obtain ⟨rfl, finished⟩ := Evolves.of_done run
      refine withdrawing_nil ?_ (.inr (.inr ⟨txid, rfl⟩))
      rw [finished]
      exact fun r same => (Option.some.inj same).symm
  | error e =>
      cases proof : refresh.deleteIntent with
      | none =>
          rw [proof] at run
          obtain ⟨rfl, finished⟩ := Evolves.of_done run
          refine withdrawing_nil ?_ (.inr (.inl proof))
          rw [finished]
          exact fun r same => (Option.some.inj same).symm
      | some delete =>
          rw [proof] at run
          rcases Fallible.evolves_attempt_bind_inv run with ⟨u, deletion, open_, open'⟩ |
            ⟨deletion, rest, deleted, rfl, deletionRun, later⟩
          · obtain ⟨v, run', _⟩ := runWithTimeout_inv deletion
            rw [open']
            refine withdrawing_of_deleting proof (deleteIntent_inv Nat.one_pos run') ?_ (absurd rfl)
            rintro _ ⟨⟩
          · obtain ⟨v, run', either⟩ := runWithTimeout_inv deletionRun
            have deleting := deleteIntent_inv Nat.one_pos run'
            obtain ⟨rfl, finished⟩ := Evolves.of_done later
            rw [List.append_nil, finished]
            refine withdrawing_of_deleting proof deleting ?_ fun _ => ?_
            · exact fun r same => (Option.some.inj same).symm
            · rcases either with same | ⟨_, some⟩
              · exact deleting.returned (by simp [← same])
              · exact some

/-- **The outline of every run.** -/
theorem refreshEscrow_inv {h : List (Event (interface L).scheduled)}
    {t : Thread (interface L).scheduled (Except Error Txid)}
    (run : Evolves (refreshEscrow B statusText client refresh refreshCosignerKp).run h t) :
    Outline statusText client refresh refreshCosignerKp (journal h) t.result? := by
  rw [refreshEscrow] at run
  rcases Fallible.evolves_check_bind_inv run with ⟨e, refusal, rfl, finished⟩ | ⟨info, _, run⟩
  · refine .refused fun r same => ⟨e, ?_, .inl refusal⟩
    rw [finished] at same
    exact (Option.some.inj same).symm
  rcases Fallible.evolves_check_bind_inv run with ⟨e, refusal, rfl, finished⟩ |
    ⟨⟨⟩, checked, run⟩
  · refine .refused fun r same => ⟨e, ?_, .inr refusal⟩
    rw [finished] at same
    exact (Option.some.inj same).symm
  rcases Fallible.evolves_attempt_bind_inv run with ⟨u, ceremony, open_, open'⟩ |
    ⟨first, rest, outcome, rfl, ceremony, later⟩
  · obtain ⟨v, executed, either⟩ := runWithTimeout_inv ceremony
    rw [open']
    rcases either with same | ⟨⟨e, failed⟩, _⟩
    · have executing := executeRefresh_inv executed
      rw [← same, open_] at executing
      exact .executing checked executing
    · rw [open_] at failed
      cases failed
  · obtain ⟨v, executed, either⟩ := runWithTimeout_inv ceremony
    have executing := executeRefresh_inv executed
    rw [journal_append]
    cases later with
    | stop =>
        rw [journal_nil, List.append_nil]
        exact .executing checked executing.unfinished
    | note _ later =>
        rw [journal_noted]
        refine .settled checked executing ?_ (withdrawing_inv later)
        rcases either with same | ⟨_, some⟩
        · left
          simp [← same]
        · exact .inr some

/-! ## The requirement -/

/-- The two proofs cover the same inputs, in any order. -/
def SameInputs (register delete : Intent L) : Prop :=
  (inputOutpoints register).Perm (inputOutpoints delete)

theorem ensureSameInputs_eq_ok_iff {register delete : Intent L} :
    ensureSameInputs register delete = .ok () ↔ SameInputs register delete := by
  rw [ensureSameInputs, ensure_eq_ok_iff, beq_iff_eq]
  exact sorted_eq_sorted_iff

/-- **The message discipline of a refresh.** -/
structure Disciplined (statusText : Status → String) (client : EscrowClient)
    (refresh : RefreshIntent L) (j : Journal L) (result : Option (Except Error Txid)) : Prop where
  /-- Only intents over the own inputs are deleted. -/
  covers : ∀ delete, .sent (.ceremony (.deleteIntent delete)) ∈ j →
    refresh.deleteIntent = some delete ∧ SameInputs refresh.intent delete
  /-- A delete proof for other inputs stops the refresh before anything is sent. -/
  refused : ∀ delete, refresh.deleteIntent = some delete → ¬SameInputs refresh.intent delete →
    ∀ request, .sent request ∉ j
  /-- Without a delete proof there is one ceremony, and nothing is deleted. -/
  single : refresh.deleteIntent = none → deletes j = 0 ∧ registers j ≤ 1
  registers_le : registers j ≤ 2
  deletes_le : deletes j ≤ staleIntentDeleteAttempts + 1
  /-- The second registration comes after a successful deletion, or after all attempts have
  found nothing to delete. -/
  cleared : ClearedBetween statusText j
  /-- After a ceremony that has succeeded nothing is deleted, and after one that has failed or
  timed out the own intent is, once. The caller gets the result of the ceremony. -/
  cleanup : ∀ before outcome after, j = before ++ .noted (.settled outcome) :: after →
    (∀ txid, outcome = .ok txid → deletes after = 0) ∧ deletes after ≤ 1 ∧
      ∀ r, result = some r → r = outcome ∧
        ∀ e delete, outcome = .error e → refresh.deleteIntent = some delete → deletes after = 1
  /-- What is returned is the result of the ceremony, or the error with which the refresh has
  been refused before it. -/
  own : ∀ r, result = some r → .noted (.settled r) ∈ j ∨
    j = [] ∧ ∃ e, r = .error e ∧ Refusal client refresh e

theorem registers_cons_noted (remark : Note) (j : Journal L) :
    registers (.noted remark :: j) = registers j :=
  List.countP_cons_of_neg (by simp [isRegister])

theorem deletes_cons_noted (remark : Note) (j : Journal L) :
    deletes (.noted remark :: j) = deletes j :=
  List.countP_cons_of_neg (by simp [isDelete])

theorem deletes_eq_zero {j : Journal L}
    (none : ∀ intent, .sent (.ceremony (.deleteIntent intent)) ∉ j) : deletes j = 0 := by
  refine List.countP_eq_zero.mpr fun event member => ?_
  rcases event with remark | (request | millis) | ⟨request, answer⟩
  · simp [isDelete]
  · cases request with
    | deleteIntent intent => exact absurd member (none intent)
    | _ => simp [isDelete, Ask.isDelete, Batch.Ask.isDelete]
  · simp [isDelete, Ask.isDelete]
  · simp [isDelete]

/-- The delete proof has been checked before anything is sent. -/
theorem sameInputs_of_checked {delete : Intent L} (proof : refresh.deleteIntent = some delete)
    (checked : checkDeleteProof refresh = .ok ()) : SameInputs refresh.intent delete := by
  rw [checkDeleteProof, proof] at checked
  exact ensureSameInputs_eq_ok_iff.mp checked

/-- A second registration in the ceremony is one of the whole. -/
theorem ClearedBetween.append_of_registers {j after : Journal L}
    (cleared : ClearedBetween statusText j) (none : registers after = 0) :
    ClearedBetween statusText (j ++ after) := by
  intro before intent rest split registered
  rcases split_append split with ⟨middle, rfl, _⟩ | ⟨middle, _, tail⟩
  · exact cleared before intent middle rfl registered
  · rw [tail, registers_append, registers_cons_register] at none
    omega

theorem Executing.deletes_eq {j : Journal L} {result : Option (Except Error Txid)}
    (executing : Executing statusText refresh refreshCosignerKp j result)
    (none : refresh.deleteIntent = none) : deletes j = 0 := by
  refine deletes_eq_zero fun intent sent => ?_
  cases none.symm.trans (executing.own intent sent)

/-- There is one result of the ceremony. -/
theorem eq_of_silent {before after before' after' : Journal L} {remark remark' : Note}
    (silent : ∀ remark, .noted remark ∉ before) (silent' : ∀ remark, .noted remark ∉ after)
    (split : before ++ .noted remark :: after = before' ++ .noted remark' :: after') :
    before' = before ∧ remark' = remark ∧ after' = after := by
  rcases split_append split with ⟨middle, rfl, _⟩ | ⟨middle, rfl, tail⟩
  · exact absurd (by simp) (silent remark')
  · cases middle with
    | nil =>
        obtain ⟨same, rfl⟩ := List.cons.inj tail
        cases same
        exact ⟨List.append_nil _, rfl, rfl⟩
    | cons event middle =>
        obtain ⟨rfl, rfl⟩ := List.cons.inj tail
        exact absurd (by simp) (silent' remark')

theorem disciplined_refused {result : Option (Except Error Txid)}
    (refusal : ∀ r, result = some r → ∃ e, r = .error e ∧ Refusal client refresh e) :
    Disciplined statusText client refresh [] result where
  covers := by simp
  refused := by simp
  single _ := ⟨rfl, Nat.zero_le _⟩
  registers_le := Nat.zero_le _
  deletes_le := Nat.zero_le _
  cleared before intent after split := by simp at split
  cleanup before outcome after split := by simp at split
  own r same := .inr ⟨rfl, refusal r same⟩

theorem Executing.disciplined {j : Journal L} (checked : checkDeleteProof refresh = .ok ())
    (executing : Executing statusText refresh refreshCosignerKp j none) :
    Disciplined statusText client refresh j none where
  covers delete sent :=
    ⟨executing.own delete sent, sameInputs_of_checked (executing.own delete sent) checked⟩
  refused delete proof other := absurd (sameInputs_of_checked proof checked) other
  single none := ⟨executing.deletes_eq none, executing.single none⟩
  registers_le := executing.registers_le
  deletes_le := executing.deletes_le.trans (Nat.le_succ _)
  cleared := executing.cleared
  cleanup before outcome after split :=
    absurd (split ▸ by simp) (executing.silent (.settled outcome))
  own := by rintro r ⟨⟩

theorem Executing.disciplined_settled {before after : Journal L} {outcome : Except Error Txid}
    {ended result : Option (Except Error Txid)} (checked : checkDeleteProof refresh = .ok ())
    (executing : Executing statusText refresh refreshCosignerKp before ended)
    (withdrawing : Withdrawing refresh outcome after result) :
    Disciplined statusText client refresh (before ++ .noted (.settled outcome) :: after)
      result := by
  have registered : registers (before ++ .noted (.settled outcome) :: after) =
      registers before := by
    rw [registers_append, registers_cons_noted, withdrawing.registers_eq, Nat.add_zero]
  have deleted : deletes (before ++ .noted (.settled outcome) :: after) =
      deletes before + deletes after := by
    rw [deletes_append, deletes_cons_noted]
  have own : ∀ delete, .sent (.ceremony (.deleteIntent delete)) ∈
      before ++ .noted (.settled outcome) :: after → refresh.deleteIntent = some delete := by
    intro delete sent
    rcases List.mem_append.mp sent with sent | sent
    · exact executing.own delete sent
    · exact withdrawing.own delete (by simpa using sent)
  constructor
  case covers =>
    exact fun delete sent => ⟨own delete sent, sameInputs_of_checked (own delete sent) checked⟩
  case refused =>
    exact fun delete proof other => absurd (sameInputs_of_checked proof checked) other
  case single =>
    intro none
    have nothing : deletes after = 0 := deletes_eq_zero fun intent sent => by
      cases none.symm.trans (withdrawing.own intent sent)
    rw [registered, deleted, executing.deletes_eq none, nothing]
    exact ⟨rfl, executing.single none⟩
  case registers_le => exact registered ▸ executing.registers_le
  case deletes_le =>
    have many := executing.deletes_le
    have one := withdrawing.deletes_le
    omega
  case cleared =>
    refine executing.cleared.append_of_registers ?_
    rw [registers_cons_noted]
    exact withdrawing.registers_eq
  case cleanup =>
    intro before' outcome' after' split
    obtain ⟨_, same, rfl⟩ := eq_of_silent executing.silent withdrawing.silent split
    cases same
    refine ⟨?_, withdrawing.deletes_le, fun r returned => ⟨withdrawing.same r returned, ?_⟩⟩
    · rintro txid rfl
      by_contra some
      obtain ⟨e, failed⟩ := withdrawing.failed some
      cases failed
    · intro e delete failed proof
      exact withdrawing.withdrawn e delete failed proof (by simp [returned])
  case own =>
    intro r returned
    rw [withdrawing.same r returned]
    simp

theorem Outline.disciplined {j : Journal L} {result : Option (Except Error Txid)}
    (outline : Outline statusText client refresh refreshCosignerKp j result) :
    Disciplined statusText client refresh j result := by
  cases outline with
  | refused refusal => exact disciplined_refused refusal
  | executing checked executing => exact executing.disciplined checked
  | settled checked executing _ withdrawing =>
      exact executing.disciplined_settled checked withdrawing

/-! ## A ceremony that times out -/

namespace Sample

noncomputable section

/-- A proof over the VTXO that is given up. Input 0 commits to the message. -/
def proof (message : Txid) : Psbt where
  unsignedTx := ⟨2, 0, [ArkadeEscrow.Sample.txIn message, ArkadeEscrow.Sample.txIn ⟨0⟩], []⟩
  inputs := [⟨none, none, ∅, ∅⟩, ⟨none, none, ∅, ∅⟩]

def delete : Intent BatchLib.reference := ⟨proof ⟨2⟩, ()⟩

/-- One VTXO is given up, with a delete proof. -/
def expiring : RefreshIntent BatchLib.reference where
  intent := ⟨proof ⟨1⟩, ()⟩
  forfeitPsbts := [ArkadeEscrow.Sample.checkpoint 1 ∅]
  refreshCosignerPk := Batch.Sample.cosignerKp.publicKey
  deleteIntent := some delete

def connected : EscrowClient := ⟨⟨false, some Batch.Sample.info⟩, some 30000, some 120000⟩

def printed (status : Status) : String := status.message

def timeout : Error := .msg "refreshing escrow timed out after 120000ms"

/-- The server does not answer the registration in time, and deletes the intent. -/
def timedOut : List (Event (interface BatchLib.reference).scheduled) :=
  [.sent (.timed (.ceremony (.registerIntent expiring.intent))),
    .answered (.timed (.ceremony (.registerIntent expiring.intent))) .elapsed] ++
    [.noted (.settled (.error timeout))] ++
    [.sent (.timed (.ceremony (.deleteIntent delete))),
      .answered (.timed (.ceremony (.deleteIntent delete))) (.inTime (.ok ()))]

theorem checkDeleteProof_expiring : checkDeleteProof expiring = .ok () :=
  ensureSameInputs_eq_ok_iff.mpr (.refl _)

theorem passes_expiring : PassesLocalChecks expiring.intoDelegate Batch.Sample.cosignerKp :=
  ⟨rfl, [⟨⟨0⟩, 0⟩], rfl⟩

theorem returns_timedOut_expiring :
    Interaction.Returns (refreshEscrow BitcoinLib.reference printed connected expiring
      Batch.Sample.cosignerKp).run timedOut (.error timeout) := by
  obtain ⟨next, asks⟩ := @executeRefresh_of_passes _ BitcoinLib.reference printed
    Batch.Sample.info _ _ checkDeleteProof_expiring passes_expiring
  have ceremony := @returns_timedOut _ _ 120000 "refreshing escrow" _ _ _ asks rfl
  have settled := @evolves_settled _ _ _ _ _ _ connected _ _ rfl checkDeleteProof_expiring ceremony
  refine settled.trans ?_
  exact Fallible.evolves_attempt_bind (returns_deleteRefreshIntent delete)

end

end Sample

/-- **Every refresh keeps the message discipline**, wherever it is stopped, wherever its
deadlines fire, and whatever the server answers. -/
theorem refresh_disciplined {h : List (Event (interface L).scheduled)}
    {t : Thread (interface L).scheduled (Except Error Txid)}
    (run : Evolves (refreshEscrow B statusText client refresh refreshCosignerKp).run h t) :
    Disciplined statusText client refresh (journal h) t.result? :=
  (refreshEscrow_inv run).disciplined

theorem refresh_disciplined_sample :
    Disciplined Sample.printed Sample.connected Sample.expiring (journal Sample.timedOut)
      (some (.error Sample.timeout)) :=
  refresh_disciplined Sample.returns_timedOut_expiring

end Refresh
end ArkadeEscrow
