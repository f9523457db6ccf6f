import ArkadeEscrow.Refresh.Discipline

/-!
# Withdrawing what was never registered

The cleanup is there to withdraw the intent that a failed ceremony may have left queued. It
runs after every error of the ceremony, and a ceremony can fail before it has registered
anything: on its local checks, when the key pair is not the one of the refresh or a forfeit
has no input. The delete proof then removes intents that other calls have queued over the same
inputs (`registeredBefore_iff`).
-/

set_option autoImplicit false

namespace ArkadeEscrow
namespace Refresh

open Interaction Batch Program

variable {L : BatchLib} {B : BitcoinLib} {statusText : Status → String} {info : Info}
variable {client : EscrowClient} {refresh : RefreshIntent L} {refreshCosignerKp : Keypair}
variable {α : Type}

/-! ## When the local checks pass -/

theorem RegisteredBefore.of_deletes {j : Journal L} (none : deletes j = 0) :
    RegisteredBefore j := by
  have parts := @registeredBefore_of_parts L j [] none (absurd rfl)
  rwa [List.append_nil] at parts

/-- A part that begins after a registration. -/
theorem RegisteredBefore.append {j after : Journal L} (first : RegisteredBefore j)
    (registered : 1 ≤ registers j) : RegisteredBefore (j ++ after) := by
  intro before intent rest split
  rcases split_append split with ⟨middle, rfl, _⟩ | ⟨middle, rfl, _⟩
  · exact first before intent middle rfl
  · rw [registers_append]
    exact Nat.le_add_right_of_le registered

theorem Outline.registeredBefore {j : Journal L} {result : Option (Except Error Txid)}
    (outline : Outline statusText client refresh refreshCosignerKp j result)
    (passes : PassesLocalChecks refresh.intoDelegate refreshCosignerKp) : RegisteredBefore j := by
  cases outline with
  | refused _ => exact .of_deletes rfl
  | executing _ executing => exact executing.registered passes
  | settled checked executing complete _ =>
      exact (executing.registered passes).append (executing.started passes checked complete)

/-- A refresh that is refused shows nothing. -/
theorem nil_of_refusal {e : Error} (refusal : Refusal client refresh e)
    {h : List (Event (interface L).scheduled)}
    {t : Thread (interface L).scheduled (Except Error Txid)}
    (run : Evolves (refreshEscrow B statusText client refresh refreshCosignerKp).run h t) :
    h = [] := by
  rw [refreshEscrow] at run
  rcases Fallible.evolves_check_bind_inv run with ⟨_, _, nothing, _⟩ | ⟨info, connected, run⟩
  · exact nothing
  rcases Fallible.evolves_check_bind_inv run with ⟨_, _, nothing, _⟩ | ⟨⟨⟩, checked, run⟩
  · exact nothing
  rcases refusal with unconnected | unchecked
  · cases connected.symm.trans unconnected
  · cases checked.symm.trans unchecked

/-! ## When they fail -/

/-- The first request of a program is sent under a timeout too. -/
theorem emits_runWithTimeout {timeout : Option Nat} {operation : String} {future : Action L α}
    {request : Ask L} {next : (interface L).Answer request → Program (interface L) (Except Error α)}
    (asks : future.run = .ask (I := interface L) request next) :
    ∃ h, journal h = [.sent request] ∧ Emits (runWithTimeout timeout operation future).run h := by
  cases timeout with
  | none =>
      refine ⟨[.sent (.plain request)], rfl, ?_⟩
      rw [runWithTimeout, ExceptT.run_mk, asks]
      exact .send (I := (interface L).scheduled) (.plain request) _
  | some millis =>
      rw [runWithTimeout, ExceptT.run_mk, asks, Program.hurried]
      split
      · exact ⟨[.sent (.timed request)], rfl,
          (Emits.send (I := (interface L).scheduled) (.timed request) _).bind _⟩
      · exact ⟨[.sent (.plain request)], rfl,
          (Emits.send (I := (interface L).scheduled) (.plain request) _).bind _⟩

theorem returns_runWithTimeout {timeout : Option Nat} {operation : String} {future : Action L α}
    {r : Except Error α} (returned : future.run = .done r) :
    Interaction.Returns (runWithTimeout timeout operation future).run [] r := by
  cases timeout with
  | none =>
      rw [runWithTimeout, ExceptT.run_mk, returned]
      exact .stop _
  | some millis =>
      rw [runWithTimeout, ExceptT.run_mk, returned]
      exact .stop _

/-- The first message of a deletion. -/
theorem deleteIntent_run (intent : Intent L) (maxAttempts : Nat) :
    ∃ next, (deleteIntent statusText intent maxAttempts).run =
      .ask (I := interface L) (.ceremony (.deleteIntent intent)) next :=
  ⟨_, deleteAttempts_run intent (maxAttempts - 1)⟩

/-- A ceremony that fails on a local check is over, or deletes first. -/
theorem executeRefresh_of_not_passes {delete : Intent L}
    (proof : refresh.deleteIntent = some delete) (checked : checkDeleteProof refresh = .ok ())
    (fails : ¬PassesLocalChecks refresh.intoDelegate refreshCosignerKp) :
    (∃ e, (executeRefresh B statusText info refresh refreshCosignerKp).run = .done (.error e)) ∨
      ∃ next, (executeRefresh B statusText info refresh refreshCosignerKp).run =
        .ask (I := interface L) (.ceremony (.deleteIntent delete)) next := by
  obtain ⟨e, first⟩ := @settle_of_not_passes L B info _ _ fails
  obtain ⟨next, asks⟩ := @deleteIntent_run L statusText delete staleIntentDeleteAttempts
  rw [executeRefresh, checked, Fallible.check_ok_bind, Fallible.run_attempt_bind, first, proof]
  cases stale : isStaleIntentError statusText e with
  | false =>
      left
      refine ⟨e, ?_⟩
      show ExceptT.run (ite _ _ _) = _
      rw [if_neg (by simp [stale])]
      rfl
  | true =>
      right
      show ∃ next, ExceptT.run (ite _ _ _) = _
      rw [if_pos stale, ExceptT.run_bind, inContext, ExceptT.run_mk, asks]
      exact ⟨_, rfl⟩

/-- **A refresh that fails on a local check deletes first.** -/
theorem emits_delete_of_not_passes {delete : Intent L} (proof : refresh.deleteIntent = some delete)
    (connected : serverInfo client.serverInfo = .ok info)
    (checked : checkDeleteProof refresh = .ok ())
    (fails : ¬PassesLocalChecks refresh.intoDelegate refreshCosignerKp) :
    ∃ h before, journal h = before ++ [.sent (.ceremony (.deleteIntent delete))] ∧
      registers before = 0 ∧
      Emits (refreshEscrow B statusText client refresh refreshCosignerKp).run h := by
  rcases @executeRefresh_of_not_passes L B statusText info _ _ _ proof checked fails with
    ⟨e, failed⟩ | ⟨next, asks⟩
  · have settled := @evolves_settled L B statusText info refresh refreshCosignerKp client [] _
      connected checked (returns_runWithTimeout failed)
    obtain ⟨_, asks⟩ := @deleteIntent_run L statusText delete 1
    obtain ⟨h, shown, run⟩ := @emits_runWithTimeout L _
      (some (client.timeout.getD defaultTimeout)) "deleting refresh intent" _ _ _ asks
    refine ⟨[.noted (.settled (.error e))] ++ h, [.noted (.settled (.error e))], ?_, rfl, ?_⟩
    · rw [journal_append, shown]
      rfl
    · have withdrawn : Emits (cleanup statusText client refresh (.error e)).run h := by
        rw [cleanup.eq_def, proof]
        show Emits (Fallible.attempt _ >>= _).run h
        rw [Fallible.run_attempt_bind]
        exact run.bind _
      obtain ⟨t, run⟩ := withdrawn
      exact ⟨t, settled.trans run⟩
  · obtain ⟨h, shown, run⟩ :=
      @emits_runWithTimeout L _ client.refreshTimeout "refreshing escrow" _ _ _ asks
    refine ⟨h, [], shown, rfl, ?_⟩
    rw [refreshEscrow, connected, checked, Fallible.check_ok_bind, Fallible.check_ok_bind,
      Fallible.run_attempt_bind]
    exact run.bind _

/-- **The cleanup withdraws only what the call has registered, if and only if** no call gets
past the refusals with a delete proof and fails on a local check. -/
theorem registeredBefore_iff :
    (∀ h t, Evolves (refreshEscrow B statusText client refresh refreshCosignerKp).run h t →
      RegisteredBefore (journal h)) ↔
    ∀ delete, refresh.deleteIntent = some delete →
      (∃ e, serverInfo client.serverInfo = .error e) ∨ ¬SameInputs refresh.intent delete ∨
        (refreshCosignerKp.publicKey = refresh.refreshCosignerPk ∧
          ∀ psbt ∈ refresh.forfeitPsbts, psbt.unsignedTx.input ≠ []) := by
  constructor
  · intro registered delete proof
    by_contra other
    push Not at other
    obtain ⟨connected, same, fails⟩ := other
    cases cached : serverInfo client.serverInfo with
    | error e => exact connected e cached
    | ok info =>
        have checked : checkDeleteProof refresh = .ok () := by
          rw [checkDeleteProof, proof]
          exact ensureSameInputs_eq_ok_iff.mpr same
        have unregistered : ¬PassesLocalChecks refresh.intoDelegate refreshCosignerKp := by
          rw [passesLocalChecks_iff]
          rintro ⟨own, inputs⟩
          obtain ⟨psbt, member, nothing⟩ := fails own
          exact inputs psbt member nothing
        obtain ⟨h, before, shown, none, t, run⟩ :=
          @emits_delete_of_not_passes L B statusText info client _ _ _ proof cached checked
            unregistered
        have one := registered h t run before delete [] shown
        omega
  · intro passes h t run
    cases proof : refresh.deleteIntent with
    | none => exact .of_deletes ((refreshEscrow_inv run).disciplined.single proof).1
    | some delete =>
        rcases passes delete proof with ⟨e, unconnected⟩ | other | passes
        · rw [nil_of_refusal (.inl unconnected) run]
          exact .of_deletes rfl
        · cases checked : checkDeleteProof refresh with
          | ok done =>
              exact absurd (sameInputs_of_checked proof checked) other
          | error e =>
              rw [nil_of_refusal (.inr checked) run]
              exact .of_deletes rfl
        · exact (refreshEscrow_inv run).registeredBefore (passesLocalChecks_iff.mpr passes)

/-- The key pair of another refresh. -/
def Sample.otherKp : Keypair := ⟨8, ⟨⟨7⟩, false⟩⟩

/-- A refresh with the wrong key pair registers nothing, and deletes. -/
theorem not_always_registeredBefore :
    ¬∀ h t, Evolves (refreshEscrow BitcoinLib.reference Sample.printed Sample.connected
      Sample.expiring Sample.otherKp).run h t → RegisteredBefore (journal h) := by
  intro registered
  have fails : ¬PassesLocalChecks Sample.expiring.intoDelegate Sample.otherKp :=
    fun passes => absurd passes.1 (by decide)
  obtain ⟨h, before, shown, none, t, run⟩ := @emits_delete_of_not_passes _ BitcoinLib.reference
    Sample.printed Batch.Sample.info Sample.connected _ _ _ rfl rfl
    Sample.checkDeleteProof_expiring fails
  have one := registered h t run before Sample.delete [] shown
  omega

end Refresh
end ArkadeEscrow
